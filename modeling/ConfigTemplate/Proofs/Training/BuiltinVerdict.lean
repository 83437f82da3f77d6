import ConfigTemplate.Proofs.Training.BuiltinConfig
import ConfigTemplate.Proofs.Training.BuiltinFields
import ConfigTemplate.Proofs.Training.RoundTrip
import ConfigTemplate.Proofs.Validation.Flags

/-!
# The verdict on the built-in configuration

Each value of the built-in template is checked against its domain when it is bound.  What the
domains leave open are the rules on several values and on the signs of numbers.  So a configuration
that is loaded from the template passes validation exactly if the bound values keep these rules.
-/

namespace ConfigTemplate

open Json Training Validation

namespace Bindings

/-- Token dropping starts from zero or more, goes up, and takes some steps. -/
@[mk_iff]
structure DroppingRules (b : Bindings) : Prop where
  min_nonneg : 0 ≤ b.integer "LTD_MIN"
  min_le_max : b.integer "LTD_MIN" ≤ b.integer "LTD_MAX"
  step_pos : 0 < b.integer "LTD_STEP"

/-- The difficulty of the curriculum goes up, and its ramp is positive. -/
@[mk_iff]
structure CurriculumRules (b : Bindings) : Prop where
  min_le_max : b.integer "CL_1st_MIN" ≤ b.integer "CL_1st_MAX"
  totalStep_pos : 0 < b.integer "CL_1st_TOTAL_STEP"
  difficultyStep_pos : 0 < b.integer "CL_1st_DIFF_STEP"
  rootDegree_pos : 0 < b.integer "CL_1st_ROOT"

/-- The rules that the domains of the single placeholders do not enforce. -/
@[mk_iff]
structure CrossFieldRules (b : Bindings) : Prop where
  micro_le : b.integer "MBSIZE" ≤ b.integer "GBSIZE"
  micro_dvd : b.integer "MBSIZE" ∣ b.integer "GBSIZE"
  dropping : b.flag "LTD_ENABLED" = true → b.DroppingRules
  curriculum : b.flag "CL_ENABLED" = true → b.CurriculumRules

end Bindings

namespace BuiltinOutline

variable {b : Bindings}

/-! ### Flags -/

/-- One placeholder enables routing and token dropping. -/
theorem routingFlags_of_reads {r : DataRouting}
    (reads : DataRouting.codec.Reads (dataRouting.value b.slotValue b.stringText) r) :
  r.enabled = b.flag "LTD_ENABLED" ∧ r.randomLtd.enabled = b.flag "LTD_ENABLED"
  := by
  obtain ⟨isEnabled, readsLtd⟩ := reads_dataRouting reads
  exact ⟨isEnabled, (reads_randomLtd readsLtd).1⟩

/-- One placeholder enables sampling and the curriculum. -/
theorem samplingFlags_of_reads {s : DataSampling}
    (reads : DataSampling.codec.Reads (dataSampling.value b.slotValue b.stringText) s) :
  s.enabled = b.flag "CL_ENABLED" ∧ s.curriculumLearning.enabled = b.flag "CL_ENABLED"
  := by
  obtain ⟨isEnabled, readsCurriculum⟩ := reads_dataSampling reads
  exact ⟨isEnabled, (reads_curriculumLearning readsCurriculum).1⟩

/-! ### Rules that the template keeps -/

theorem scalingRule_of_reads {f : Fp16}
    (reads : Fp16.codec.Reads (fp16.value b.slotValue b.stringText) f) :
  ScalingRule f
  := by
  obtain ⟨isScale, isWindow, isLeast⟩ := reads_fp16 reads
  rw [scalingRule_iff, isScale, isWindow, isLeast]
  decide +kernel

/-- The template lists as many layers as it declares, each once. -/
theorem layerRule_of_reads {l : RandomLtd}
    (reads : RandomLtd.codec.Reads (randomLtd.value b.slotValue b.stringText) l) :
  LayerRule l
  := by
  obtain ⟨-, isTotal, isDeclared, readsIds, -⟩ := reads_randomLtd reads
  have ids : l.layerIds.map Whole.value = (List.range' 1 22).map Int.ofNat :=
    reads_naturals 1 [2, 3, 4, 5, 6, 7, 8, 9, 10, 11, 12, 13, 14, 15, 16, 17, 18, 19, 20, 21, 22]
      readsIds
  refine ⟨?_, ?_, ?_, ?_⟩
  · rw [isTotal, isDeclared]
    decide
  · rw [isDeclared, ← List.length_map Whole.value, ids]
    rfl
  · have below : ∀ i ∈ (List.range' 1 22).map Int.ofNat, i < 24 := by decide
    intro id mem
    rw [isTotal]
    apply below
    rw [← ids]
    exact List.mem_map_of_mem mem
  · have distinct : (l.layerIds.map Whole.value).Nodup := by
      rw [ids]
      decide
    exact distinct.of_map

/-! ### Rules on the bound values -/

section

variable (admitted : b.Admitted)

include admitted

/-- The sizes of batches are positive by their domain. -/
theorem batchRule_iff_of_reads {c : Config}
    (reads : Config.codec.Reads (config.value b.slotValue b.stringText) c) :
  BatchRule c
    ↔ b.integer "MBSIZE" ≤ b.integer "GBSIZE" ∧ b.integer "MBSIZE" ∣ b.integer "GBSIZE"
  := by
  obtain ⟨isBatch, isMicro, -⟩ := reads_config reads
  have globalPos : 0 < b.integer "GBSIZE" := admitted.integer_pos (by decide)
  have microPos : 0 < b.integer "MBSIZE" := admitted.integer_pos (by decide)
  simp only [batchRule_iff, isBatch, isMicro, globalPos, microPos, true_and]

variable (exact : b.Exact)

include exact

theorem tokenScheduleRule_iff_of_reads {s : TokenSchedule}
    (reads : TokenSchedule.codec.Reads (tokenSchedule.value b.slotValue b.stringText) s) :
  TokenScheduleRule s ↔ b.DroppingRules
  := by
  obtain ⟨isMin, isMax, isStep⟩ := reads_tokenSchedule reads
  rw [tokenScheduleRule_iff, Bindings.droppingRules_iff,
    exact.toBinary_le_iff admitted (by decide) (by decide) isMin isMax,
    exact.zero_le_toBinary_iff admitted (by decide) isMin,
    exact.zero_lt_toBinary_iff admitted (by decide) isStep]
  exact and_left_comm

/-- The paths of the metric are not blank by their domain. -/
theorem metricRule_iff_of_reads {m : Metric}
    (reads : Metric.codec.Reads (metric.value b.slotValue b.stringText) m) :
  MetricRule m ↔ b.CurriculumRules
  := by
  obtain ⟨isMin, isMax, isSample, isMetric, readsSchedule⟩ := reads_metric reads
  obtain ⟨isTotal, isStep, isRoot⟩ := reads_rootSchedule readsSchedule
  have samplePath : Text.isBlankText m.indexToSamplePath = false := by
    rw [← isSample]
    apply isBlankText_stringText admitted <;> decide
  have metricPath : Text.isBlankText m.indexToMetricPath = false := by
    rw [← isMetric]
    apply isBlankText_stringText admitted <;> decide
  rw [metricRule_iff, Bindings.curriculumRules_iff,
    exact.toBinary_le_iff admitted (by decide) (by decide) isMin isMax,
    exact.zero_lt_toBinary_iff admitted (by decide) isTotal,
    exact.zero_lt_toBinary_iff admitted (by decide) isStep,
    exact.zero_lt_toBinary_iff admitted (by decide) isRoot]
  simp only [samplePath, metricPath, true_and]

/-- The curriculum has the rule of its one metric. -/
theorem curriculumRule_iff_of_reads {c : CurriculumLearning}
    (reads : CurriculumLearning.codec.Reads
      (curriculumLearning.value b.slotValue b.stringText) c) :
  CurriculumRule c ↔ b.CurriculumRules
  := by
  obtain ⟨-, isCluster, readsMetrics⟩ := reads_curriculumLearning reads
  obtain ⟨m, only, readsMetric⟩ := reads_metrics readsMetrics
  have clusterPath : Text.isBlankText c.dataClusterPath = false := by
    rw [← isCluster]
    apply isBlankText_stringText admitted <;> decide
  rw [curriculumRule_iff, only, ← metricRule_iff_of_reads admitted exact readsMetric]
  simp [clusterPath]

/-- The configuration keeps all rules exactly if the bound values keep those that no single domain
enforces. -/
theorem keepsRules_iff_of_reads {c : Config}
    (reads : Config.codec.Reads (config.value b.slotValue b.stringText) c) :
  KeepsRules c ↔ b.CrossFieldRules
  := by
  obtain ⟨-, -, isSteps, readsZero, readsFp16, readsEfficiency⟩ := reads_config reads
  obtain ⟨readsRouting, readsSampling⟩ := reads_dataEfficiency readsEfficiency
  obtain ⟨-, readsLtd⟩ := reads_dataRouting readsRouting
  obtain ⟨-, readsCurriculum⟩ := reads_dataSampling readsSampling
  obtain ⟨isDropping, -, -, -, readsSchedule⟩ := reads_randomLtd readsLtd
  obtain ⟨isCurriculum, -⟩ := reads_curriculumLearning readsCurriculum
  have logging : 0 < c.stepsPerPrint.value := by
    rw [isSteps]
    exact admitted.integer_pos (by decide)
  have stage : c.zeroOptimization.stage.value ≤ 3 := by
    have documented : HasDomain "ZERO_STAGE" (.integerRange 0 3) := by decide
    rw [reads_zeroOptimization readsZero]
    exact admitted.integer_le documented
  rw [keepsRules_iff, Bindings.crossFieldRules_iff, batchRule_iff_of_reads admitted reads,
    tokenScheduleRule_iff_of_reads admitted exact readsSchedule,
    curriculumRule_iff_of_reads admitted exact readsCurriculum, isDropping, isCurriculum]
  simp only [logging, stage, scalingRule_of_reads readsFp16, layerRule_of_reads readsLtd,
    implies_true, true_and, and_assoc]

end

end BuiltinOutline

/-- **The verdict on the built-in configuration.**  With admitted values that fit, and with numbers
that are exact as floating point numbers, the built-in template is rendered and loaded.  Routing and
sampling are enabled together with their parts, so that no warning on flags is given, and the
configuration passes exactly if the values keep the rules on several of them, whichever paths are
looked up. -/
theorem exists_verdict_builtin_iff {b : Bindings} (admitted : b.Admitted)
    (within : b.WithinWidths) (exact : b.Exact) (pretty : Bool) :
  ∃ r c, Template.builtin.render b ⟨true, pretty⟩ = .ok r
    ∧ Config.ofValue r.value = .ok c
    ∧ c.dataEfficiency.dataRouting.enabled = b.flag "LTD_ENABLED"
    ∧ c.dataEfficiency.dataRouting.randomLtd.enabled = b.flag "LTD_ENABLED"
    ∧ c.dataEfficiency.dataSampling.enabled = b.flag "CL_ENABLED"
    ∧ c.dataEfficiency.dataSampling.curriculumLearning.enabled = b.flag "CL_ENABLED"
    ∧ ∀ check,
      (∀ routing dropping, routingMismatch routing dropping ∉ (validate check c).messages)
      ∧ (∀ sampling curriculum,
        samplingMismatch sampling curriculum ∉ (validate check c).messages)
      ∧ ((validate check c).passed = true ↔ b.CrossFieldRules)
  := by
  obtain ⟨r, rendered, same⟩ := exists_render_builtin admitted ⟨true, pretty⟩
  obtain ⟨c, loaded⟩ := (exists_ofValue_iff r.value).2
    (same ▸ (BuiltinOutline.accepts_config admitted).2 within)
  have reads := Config.ofValue_eq_ok_iff.1 loaded
  rw [same] at reads
  obtain ⟨-, -, -, -, -, readsEfficiency⟩ := BuiltinOutline.reads_config reads
  obtain ⟨readsRouting, readsSampling⟩ := BuiltinOutline.reads_dataEfficiency readsEfficiency
  obtain ⟨isRouting, isDropping⟩ := BuiltinOutline.routingFlags_of_reads readsRouting
  obtain ⟨isSampling, isCurriculum⟩ := BuiltinOutline.samplingFlags_of_reads readsSampling
  refine ⟨r, c, rendered, loaded, isRouting, isDropping, isSampling, isCurriculum, ?_⟩
  intro check
  refine ⟨?_, ?_, ?_⟩
  · intro routing dropping
    rw [routingMismatch_mem_validate, isRouting, isDropping]
    rintro ⟨rfl, rfl, differ⟩
    exact differ rfl
  · intro sampling curriculum
    rw [samplingMismatch_mem_validate, isSampling, isCurriculum]
    rintro ⟨rfl, rfl, differ⟩
    exact differ rfl
  · rw [validate, Report.passed_ofMessages_iff, faultless_validationMessages]
    exact BuiltinOutline.keepsRules_iff_of_reads admitted exact reads

/-- Values with token dropping and a curriculum pass, even where no path leads anywhere. -/
theorem exists_verdict_pretraining :
  ∃ r c, Template.builtin.render (pretrainingValues 0xffffffff) ⟨true, false⟩ = .ok r
    ∧ Config.ofValue r.value = .ok c
    ∧ c.dataEfficiency.dataRouting.randomLtd.enabled = true
    ∧ c.dataEfficiency.dataSampling.curriculumLearning.enabled = true
    ∧ (validate (some fun _ => false) c).passed = true
  := by
  have admitted : (pretrainingValues 0xffffffff).Admitted := admitted_pretrainingValues (.inl rfl)
  have within : (pretrainingValues 0xffffffff).WithinWidths := by
    rw [withinWidths_pretrainingValues]
    decide
  have exact : (pretrainingValues 0xffffffff).Exact := by
    unfold Bindings.Exact
    decide +kernel
  have rules : (pretrainingValues 0xffffffff).CrossFieldRules := by
    rw [Bindings.crossFieldRules_iff, Bindings.droppingRules_iff, Bindings.curriculumRules_iff]
    decide +kernel
  obtain ⟨r, c, rendered, loaded, -, isDropping, -, isCurriculum, verdict⟩ :=
    exists_verdict_builtin_iff admitted within exact false
  obtain ⟨-, -, passes⟩ := verdict (some fun _ => false)
  have flags : (pretrainingValues 0xffffffff).flag "LTD_ENABLED" = true
      ∧ (pretrainingValues 0xffffffff).flag "CL_ENABLED" = true := by decide +kernel
  exact ⟨r, c, rendered, loaded, isDropping.trans flags.1, isCurriculum.trans flags.2,
    passes.2 rules⟩

end ConfigTemplate
