import ConfigTemplate.Proofs.Bindings.Integers
import ConfigTemplate.Proofs.Json.CodecLaws
import ConfigTemplate.Proofs.Template.BuiltinOutline
import ConfigTemplate.Training.Layout

/-!
# The fields of the built-in configuration

A configuration that is loaded from the built-in template has the bound values in its fields.
Record by record, a field is read from the part of the outline with its name: a placeholder there
puts the value of its name into the field, a literal puts its own.
-/

namespace ConfigTemplate.BuiltinOutline

open Json Training

variable {b : Bindings}

/-! ### Leaves -/

@[simp]
theorem reads_text {s t : String} :
  Codec.string.Reads ((text s).value b.slotValue b.stringText) t ↔ b.stringText (pieces s) = t
  := by
  rw [Codec.reads_string]
  simp [text, Outline.value, Bindings.slotValue]

@[simp]
theorem reads_natural {n : Fin 1000} {m : Number} {fits} :
  Codec.number.Reads ((natural n).value b.slotValue b.stringText) m ↔ .integer n fits = m
  := by
  rw [Codec.reads_number]
  simp [natural, Outline.value, Bindings.slotValue, Literal.value, NumeralText.ofInt]

@[simp]
theorem reads_natural_whole {n : Fin 1000} {w : Width} {m : Whole w} :
  (Codec.whole w).Reads ((natural n).value b.slotValue b.stringText) m ↔ (n : Int) = m.value
  := by
  rw [Codec.reads_whole]
  simp [natural, Outline.value, Bindings.slotValue, Literal.value, NumeralText.ofInt]

/-- A bare placeholder has the JSON value of what it is bound to, and of nothing else. -/
theorem value_bare_eq_iff {name : String} {isName} {v : Scalar} :
  (bare name isName).value b.slotValue b.stringText = v.toValue ↔ b.get? name = some v
  := by
  rw [value_bare]
  cases b.get? name with
  | none => cases v <;> simp [Scalar.toValue]
  | some w => cases v <;> cases w <;> simp [Scalar.toValue]

@[simp]
theorem reads_bare_number {name : String} {isName} {n : Number} :
  Codec.number.Reads ((bare name isName).value b.slotValue b.stringText) n
    ↔ b.get? name = some (.number n)
  := by
  rw [Codec.reads_number]
  exact value_bare_eq_iff (v := .number n)

theorem flag_of_reads_bare {name : String} {isName} {t : Bool}
    (reads : Codec.boolean.Reads ((bare name isName).value b.slotValue b.stringText) t) :
  t = b.flag name
  := by
  have same := Codec.reads_boolean.1 reads
  exact (Bindings.flag_eq (value_bare_eq_iff (v := .boolean t).1 same)).symm

theorem integer_of_reads_bare {name : String} {isName} {w : Width} {n : Whole w}
    (reads : (Codec.whole w).Reads ((bare name isName).value b.slotValue b.stringText) n) :
  n.value = b.integer name
  := by
  have same := Codec.reads_whole.1 reads
  have found := value_bare_eq_iff (v := .number (.integer n.value (w.fits n.inRange))).1 same
  exact (Bindings.integer_eq found ⟨_, rfl⟩).symm

/-- A string that is the name of a placeholder has the plain text of the value. -/
theorem stringText_placeholder {name : String} {v : Scalar}
    (plain : (name.toList.all fun c => (plainPiece? c).isSome) = true)
    (isName : isPlaceholderName name.toList = true) (found : b.get? name = some v) :
  b.stringText (pieces name) = v.display
  := by
  obtain ⟨content, -⟩ := spelled_plainPieces (List.all_eq_true.1 plain)
  unfold Bindings.stringText pieces
  rw [content, if_pos isName, String.ofList_toList, found]
  rfl

/-- A path is not blank. -/
theorem isBlankText_stringText (admitted : b.Admitted) {name : String}
    (documented : HasDomain name .path)
    (plain : (name.toList.all fun c => (plainPiece? c).isSome) = true)
    (isName : isPlaceholderName name.toList = true) :
  Text.isBlankText (b.stringText (pieces name)) = false
  := by
  obtain ⟨v, found, inDomain⟩ := admitted.exists_value documented
  obtain ⟨s, rfl, notBlank⟩ := Domain.admits_path_iff.1 inDomain
  rw [stringText_placeholder plain isName found]
  exact notBlank

/-! ### Records -/

/-- A record is read from the members of an object, field by field. -/
theorem exists_of_reads_object {α σ : Type} {name : String} {fields : Fields α}
    {make : α → Dictionary Value → σ} {parts : σ → α × Dictionary Value} {close : String}
    {first : Label × Outline Slot} {rest : List (Label × Outline Slot)} {x : σ}
    (reads : (Codec.record name fields make parts).Reads
      ((object close first rest).value b.slotValue b.stringText) x) :
  ∃ values extra, make values extra = x
    ∧ fields.Reads (sortEntries ((first :: rest).map fun (label, part) =>
        (b.stringText label.key, part.value b.slotValue b.stringText))) values
  := by
  rw [value_object, Codec.reads_record] at reads
  obtain ⟨entries, same, values, reads, rfl⟩ := reads
  obtain rfl := Value.object.inj same
  exact ⟨values, _, rfl, reads⟩

/-- An array of small numbers is read as these numbers. -/
theorem reads_naturals {w : Width} (first : Fin 1000) (rest : List (Fin 1000))
    {values : List (Whole w)}
    (reads : (Codec.list (.whole w)).Reads
      ((array (natural first) (rest.map natural)).value b.slotValue b.stringText) values) :
  values.map Whole.value = (first :: rest).map fun n : Fin 1000 => (n : Int)
  := by
  have step {numbers : List (Fin 1000)} {values : List (Whole w)}
      (each : List.Forall₂ (fun n => (Codec.whole w).Reads
        ((natural n).value b.slotValue b.stringText)) numbers values) :
      values.map Whole.value = numbers.map fun n : Fin 1000 => (n : Int) := by
    induction each with
    | nil => rfl
    | cons head _ ih => rw [List.map_cons, List.map_cons, ih, reads_natural_whole.1 head]
  rw [value_array, Codec.reads_list] at reads
  obtain ⟨items, same, each⟩ := reads
  obtain rfl := Value.array.inj same
  rw [← List.map_cons, List.map_map, List.forall₂_map_left_iff] at each
  exact step each

/-- The scaling of the loss does not depend on the bindings. -/
theorem reads_fp16 {f : Fp16}
    (reads : Fp16.codec.Reads (fp16.value b.slotValue b.stringText) f) :
  f.lossScale = .integer 0 (by decide) ∧ f.lossScaleWindow.value = 500
    ∧ f.minLossScale = .integer 1 (by decide)
  := by
  obtain ⟨⟨enabled, scale, window, hysteresis, least, power⟩, extra, rfl, fields⟩ :=
    exists_of_reads_object reads
  simp (disch := decide) [label, lookup_cons_eq] at fields
  obtain ⟨-, isScale, isWindow, -, isLeast, -⟩ := fields
  exact ⟨isScale.symm, isWindow.symm, isLeast.symm⟩

theorem reads_zeroOptimization {z : ZeroOptimization}
    (reads : ZeroOptimization.codec.Reads (zeroOptimization.value b.slotValue b.stringText) z) :
  z.stage.value = b.integer "ZERO_STAGE"
  := by
  obtain ⟨stage, extra, rfl, fields⟩ := exists_of_reads_object reads
  simp (disch := decide) [label] at fields
  exact integer_of_reads_bare fields

theorem reads_linearSchedule {s : LinearSchedule}
    (reads : LinearSchedule.codec.Reads (linearSchedule.value b.slotValue b.stringText) s) :
  b.get? "LTD_STEP" = some (.number s.requireSteps)
  := by
  obtain ⟨⟨requireSteps, seqPerStep⟩, extra, rfl, fields⟩ := exists_of_reads_object reads
  simp (disch := decide) [label, lookup_cons_eq] at fields
  exact fields.1

theorem reads_tokenSchedule {s : TokenSchedule}
    (reads : TokenSchedule.codec.Reads (tokenSchedule.value b.slotValue b.stringText) s) :
  b.get? "LTD_MIN" = some (.number s.minValue) ∧ b.get? "LTD_MAX" = some (.number s.maxValue)
    ∧ b.get? "LTD_STEP" = some (.number s.scheduleConfig.requireSteps)
  := by
  obtain ⟨⟨minValue, maxValue, kind, schedule⟩, extra, rfl, fields⟩ :=
    exists_of_reads_object reads
  simp (disch := decide) [label, lookup_cons_eq] at fields
  obtain ⟨isMin, isMax, -, readsSchedule⟩ := fields
  exact ⟨isMin, isMax, reads_linearSchedule readsSchedule⟩

theorem reads_randomLtd {l : RandomLtd}
    (reads : RandomLtd.codec.Reads (randomLtd.value b.slotValue b.stringText) l) :
  l.enabled = b.flag "LTD_ENABLED" ∧ l.totalLayerNum.value = 24 ∧ l.layerNum.value = 22
    ∧ (Codec.list (.whole .unsigned32)).Reads (layerIds.value b.slotValue b.stringText) l.layerIds
    ∧ TokenSchedule.codec.Reads (tokenSchedule.value b.slotValue b.stringText) l.schedule
  := by
  obtain ⟨⟨enabled, total, declared, ids, mask, kind, order, schedule⟩, extra, rfl, fields⟩ :=
    exists_of_reads_object reads
  simp (disch := decide) [label, lookup_cons_eq] at fields
  obtain ⟨isEnabled, isTotal, isDeclared, readsIds, -, -, -, readsSchedule⟩ := fields
  exact ⟨flag_of_reads_bare isEnabled, isTotal.symm, isDeclared.symm, readsIds, readsSchedule⟩

theorem reads_dataRouting {r : DataRouting}
    (reads : DataRouting.codec.Reads (dataRouting.value b.slotValue b.stringText) r) :
  r.enabled = b.flag "LTD_ENABLED"
    ∧ RandomLtd.codec.Reads (randomLtd.value b.slotValue b.stringText) r.randomLtd
  := by
  obtain ⟨⟨enabled, randomLtd⟩, extra, rfl, fields⟩ := exists_of_reads_object reads
  simp (disch := decide) [label, lookup_cons_eq] at fields
  exact ⟨flag_of_reads_bare fields.1, fields.2⟩

theorem reads_rootSchedule {s : RootSchedule}
    (reads : RootSchedule.codec.Reads (rootSchedule.value b.slotValue b.stringText) s) :
  b.get? "CL_1st_TOTAL_STEP" = some (.number s.totalCurriculumStep)
    ∧ b.get? "CL_1st_DIFF_STEP" = some (.number s.difficultyStep)
    ∧ b.get? "CL_1st_ROOT" = some (.number s.rootDegree)
  := by
  obtain ⟨⟨totalStep, difficultyStep, rootDegree⟩, extra, rfl, fields⟩ :=
    exists_of_reads_object reads
  simp (disch := decide) [label, lookup_cons_eq] at fields
  exact fields

theorem reads_metric {m : Metric}
    (reads : Metric.codec.Reads (metric.value b.slotValue b.stringText) m) :
  b.get? "CL_1st_MIN" = some (.number m.minDifficulty)
    ∧ b.get? "CL_1st_MAX" = some (.number m.maxDifficulty)
    ∧ b.stringText (pieces "CL_1st_SAMPLE_PATH") = m.indexToSamplePath
    ∧ b.stringText (pieces "CL_1st_METRIC_PATH") = m.indexToMetricPath
    ∧ RootSchedule.codec.Reads (rootSchedule.value b.slotValue b.stringText) m.scheduleConfig
  := by
  obtain ⟨⟨samplePath, metricPath, difficulty, clustering, least, greatest, kind, schedule⟩, extra,
    rfl, fields⟩ := exists_of_reads_object reads
  simp (disch := decide) [label, lookup_cons_eq] at fields
  obtain ⟨isSample, isMetric, -, -, isMin, isMax, -, readsSchedule⟩ := fields
  exact ⟨isMin, isMax, isSample, isMetric, readsSchedule⟩

/-- The curriculum has one metric, under the name that is bound. -/
theorem reads_metrics {d : Dictionary Metric}
    (reads : (Codec.dictionary Metric.codec).Reads (metrics.value b.slotValue b.stringText) d) :
  ∃ m, d.entries = [(b.stringText (pieces "CL_1st_METRIC_NAME"), m)]
    ∧ Metric.codec.Reads (metric.value b.slotValue b.stringText) m
  := by
  rw [metrics, value_object, Codec.reads_dictionary] at reads
  obtain ⟨members, same, entries, each, rfl⟩ := reads
  obtain rfl := Value.object.inj same
  have single : List.Forall₂ _ [(b.stringText (pieces "CL_1st_METRIC_NAME"), _)] entries := each
  obtain ⟨⟨name, m⟩, rest, ⟨rfl, readsMetric⟩, none, rfl⟩ := List.forall₂_cons_left_iff.1 single
  obtain rfl := List.forall₂_nil_left_iff.1 none
  exact ⟨m, rfl, readsMetric⟩

theorem reads_curriculumLearning {c : CurriculumLearning}
    (reads : CurriculumLearning.codec.Reads
      (curriculumLearning.value b.slotValue b.stringText) c) :
  c.enabled = b.flag "CL_ENABLED"
    ∧ b.stringText (pieces "CL_CLUSTER_PATH") = c.dataClusterPath
    ∧ (Codec.dictionary Metric.codec).Reads (metrics.value b.slotValue b.stringText) c.metrics
  := by
  obtain ⟨⟨enabled, clusterPath, metrics⟩, extra, rfl, fields⟩ := exists_of_reads_object reads
  simp (disch := decide) [label, lookup_cons_eq] at fields
  exact ⟨flag_of_reads_bare fields.1, fields.2⟩

theorem reads_dataSampling {s : DataSampling}
    (reads : DataSampling.codec.Reads (dataSampling.value b.slotValue b.stringText) s) :
  s.enabled = b.flag "CL_ENABLED"
    ∧ CurriculumLearning.codec.Reads (curriculumLearning.value b.slotValue b.stringText)
      s.curriculumLearning
  := by
  obtain ⟨⟨enabled, numWorkers, curriculum⟩, extra, rfl, fields⟩ := exists_of_reads_object reads
  simp (disch := decide) [label, lookup_cons_eq] at fields
  exact ⟨flag_of_reads_bare fields.1, fields.2.2⟩

theorem reads_dataEfficiency {e : DataEfficiency}
    (reads : DataEfficiency.codec.Reads (dataEfficiency.value b.slotValue b.stringText) e) :
  DataRouting.codec.Reads (dataRouting.value b.slotValue b.stringText) e.dataRouting
    ∧ DataSampling.codec.Reads (dataSampling.value b.slotValue b.stringText) e.dataSampling
  := by
  obtain ⟨⟨enabled, seed, routing, sampling⟩, extra, rfl, fields⟩ := exists_of_reads_object reads
  simp (disch := decide) [label, lookup_cons_eq] at fields
  exact ⟨fields.2.2.1, fields.2.2.2⟩

theorem reads_config {c : Config}
    (reads : Config.codec.Reads (config.value b.slotValue b.stringText) c) :
  c.trainBatchSize.value = b.integer "GBSIZE"
    ∧ c.trainMicroBatchSizePerGpu.value = b.integer "MBSIZE"
    ∧ c.stepsPerPrint.value = b.integer "LOG_INTERVAL"
    ∧ ZeroOptimization.codec.Reads (zeroOptimization.value b.slotValue b.stringText)
      c.zeroOptimization
    ∧ Fp16.codec.Reads (fp16.value b.slotValue b.stringText) c.fp16
    ∧ DataEfficiency.codec.Reads (dataEfficiency.value b.slotValue b.stringText) c.dataEfficiency
  := by
  obtain ⟨⟨batch, microBatch, steps, zero, prescale, fp16, efficiency⟩, extra, rfl, fields⟩ :=
    exists_of_reads_object reads
  simp (disch := decide) [label, lookup_cons_eq] at fields
  obtain ⟨isBatch, isMicro, isSteps, readsZero, -, readsFp16, readsEfficiency⟩ := fields
  exact ⟨integer_of_reads_bare isBatch, integer_of_reads_bare isMicro,
    integer_of_reads_bare isSteps, readsZero, readsFp16, readsEfficiency⟩

end ConfigTemplate.BuiltinOutline
