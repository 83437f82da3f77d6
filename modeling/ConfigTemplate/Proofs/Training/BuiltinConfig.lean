import ConfigTemplate.Proofs.Bindings.Admitted
import ConfigTemplate.Proofs.Json.TypedValues
import ConfigTemplate.Proofs.Template.BuiltinOutline
import ConfigTemplate.Training.Layout

/-!
# Loading the built-in configuration

The built-in template with the values that the catalog admits is a typed configuration, provided
that four integers fit: the two batch sizes and the logging interval are read as signed 64-bit
integers, the number of workers as an unsigned 32-bit one.  Record by record, the outline of the
template tells which part of it a field is read from.
-/

namespace ConfigTemplate

open Json Training

namespace BuiltinOutline

variable {b : Bindings}

/-! ### Leaves -/

@[simp]
theorem accepts_truth (t : Bool) :
  Codec.boolean.Accepts ((truth t).value b.slotValue b.stringText)
  := Codec.accepts_boolean t

@[simp]
theorem accepts_text (s : String) :
  Codec.string.Accepts ((text s).value b.slotValue b.stringText)
  := Codec.accepts_string _

@[simp]
theorem accepts_natural (n : Fin 1000) :
  Codec.number.Accepts ((natural n).value b.slotValue b.stringText)
  := Codec.accepts_number _

@[simp]
theorem accepts_natural_whole (n : Fin 1000) {w : Width} (wide : 1000 ≤ w.greatest) :
  (Codec.whole w).Accepts ((natural n).value b.slotValue b.stringText)
  := by
  apply Codec.accepts_whole.2
  have : w.least ≤ 0 := by cases w <;> decide
  omega

/-- A placeholder of truth values stands where a truth value is read. -/
theorem accepts_bare_boolean (admitted : b.Admitted) {name : String} {isName}
    (documented : HasDomain name .boolean) :
  Codec.boolean.Accepts ((bare name isName).value b.slotValue b.stringText)
  := by
  obtain ⟨v, bound, inDomain⟩ := admitted.exists_value documented
  obtain ⟨t, rfl⟩ := Domain.admits_boolean_iff.1 inDomain
  rw [value_bare, bound]
  apply Codec.accepts_boolean

/-- A placeholder of numbers stands where any number is read. -/
theorem accepts_bare_number (admitted : b.Admitted) {name : String} {isName}
    (documented : HasDomain name .number) :
  Codec.number.Accepts ((bare name isName).value b.slotValue b.stringText)
  := by
  obtain ⟨v, bound, inDomain⟩ := admitted.exists_value documented
  obtain ⟨n, rfl⟩ := Domain.admits_number_iff.1 inDomain
  rw [value_bare, bound]
  apply Codec.accepts_number

/-- An integer is accepted exactly if it has the width of the field. -/
theorem accepts_bare_whole {name : String} {isName} {w : Width} {v : Scalar} {value : Int}
    (bound : b.get? name = some v) (integer : v.IsInteger value) :
  (Codec.whole w).Accepts ((bare name isName).value b.slotValue b.stringText)
    ↔ w.least ≤ value ∧ value ≤ w.greatest
  := by
  obtain ⟨fits, rfl⟩ := integer
  rw [value_bare, bound]
  apply Codec.accepts_whole

/-- An integer from zero up is accepted if it is not too great. -/
theorem accepts_bare_count (admitted : b.Admitted) {name : String} {isName} {w : Width}
    (documented : HasDomain name .positiveInteger ∨ HasDomain name .nonNegativeInteger) :
  (Codec.whole w).Accepts ((bare name isName).value b.slotValue b.stringText)
    ↔ b.AtMost name w.greatest
  := by
  have count : ∃ v value, b.get? name = some v ∧ v.IsInteger value ∧ 0 ≤ value := by
    rcases documented with positive | nonNegative
    · obtain ⟨v, bound, inDomain⟩ := admitted.exists_value positive
      obtain ⟨value, integer, sign⟩ := Domain.admits_positiveInteger_iff.1 inDomain
      exact ⟨v, value, bound, integer, sign.le⟩
    · obtain ⟨v, bound, inDomain⟩ := admitted.exists_value nonNegative
      obtain ⟨value, integer, sign⟩ := Domain.admits_nonNegativeInteger_iff.1 inDomain
      exact ⟨v, value, bound, integer, sign⟩
  obtain ⟨v, value, bound, integer, sign⟩ := count
  have least : w.least ≤ value := by
    apply le_trans _ sign
    cases w <;> decide
  rw [accepts_bare_whole bound integer, Bindings.atMost_iff bound integer]
  exact and_iff_right least

/-! ### Records

The entries of a record are looked up by name, so each of its fields comes down to the part of the
outline with that key.
-/

theorem accepts_fp16 :
  Fp16.codec.Accepts (fp16.value b.slotValue b.stringText)
  := by
  unfold fp16 Fp16.codec
  simp (disch := decide) [label, lookup_cons_eq]

theorem accepts_layerIds :
  (Codec.list (.whole .unsigned32)).Accepts (layerIds.value b.slotValue b.stringText)
  := by
  unfold layerIds
  simp (disch := decide) [Codec.accepts_list]

section

variable (admitted : b.Admitted)

include admitted

/-- The stages of the domain fit into eight bits. -/
theorem accepts_zeroOptimization :
  ZeroOptimization.codec.Accepts (zeroOptimization.value b.slotValue b.stringText)
  := by
  have documented : HasDomain "ZERO_STAGE" (.integerRange 0 3) := by decide
  obtain ⟨v, bound, inDomain⟩ := admitted.exists_value documented
  obtain ⟨value, integer, -, least, greatest⟩ := Domain.admits_integerRange_iff.1 inDomain
  have stage : Width.least .unsigned8 ≤ value ∧ value ≤ Width.greatest .unsigned8 :=
    ⟨least, greatest.trans (by decide)⟩
  unfold zeroOptimization ZeroOptimization.codec
  simp (disch := decide) [label, accepts_bare_whole bound integer, stage]

theorem accepts_linearSchedule :
  LinearSchedule.codec.Accepts (linearSchedule.value b.slotValue b.stringText)
  := by
  unfold linearSchedule LinearSchedule.codec
  simp (disch := decide) [label, lookup_cons_eq, accepts_bare_number admitted]

theorem accepts_tokenSchedule :
  TokenSchedule.codec.Accepts (tokenSchedule.value b.slotValue b.stringText)
  := by
  unfold tokenSchedule TokenSchedule.codec
  simp (disch := decide) [label, lookup_cons_eq, accepts_bare_number admitted,
    accepts_linearSchedule admitted]

theorem accepts_randomLtd :
  RandomLtd.codec.Accepts (randomLtd.value b.slotValue b.stringText)
  := by
  unfold randomLtd RandomLtd.codec
  simp (disch := decide) [label, lookup_cons_eq, accepts_bare_boolean admitted,
    accepts_layerIds, accepts_tokenSchedule admitted]

theorem accepts_dataRouting :
  DataRouting.codec.Accepts (dataRouting.value b.slotValue b.stringText)
  := by
  unfold dataRouting DataRouting.codec
  simp (disch := decide) [label, lookup_cons_eq, accepts_bare_boolean admitted,
    accepts_randomLtd admitted]

theorem accepts_rootSchedule :
  RootSchedule.codec.Accepts (rootSchedule.value b.slotValue b.stringText)
  := by
  unfold rootSchedule RootSchedule.codec
  simp (disch := decide) [label, lookup_cons_eq, accepts_bare_number admitted]

theorem accepts_metric :
  Metric.codec.Accepts (metric.value b.slotValue b.stringText)
  := by
  unfold metric Metric.codec
  simp (disch := decide) [label, lookup_cons_eq, accepts_bare_number admitted,
    accepts_rootSchedule admitted]

/-- The metric is accepted under any name. -/
theorem accepts_metrics :
  (Codec.dictionary Metric.codec).Accepts (metrics.value b.slotValue b.stringText)
  := by
  rw [metrics, value_object, Codec.accepts_dictionary]
  intro member mem
  obtain rfl := List.mem_singleton.1 mem
  exact accepts_metric admitted

theorem accepts_curriculumLearning :
  CurriculumLearning.codec.Accepts (curriculumLearning.value b.slotValue b.stringText)
  := by
  unfold curriculumLearning CurriculumLearning.codec
  simp (disch := decide) [label, lookup_cons_eq, accepts_bare_boolean admitted,
    accepts_metrics admitted]

/-- The number of workers is the one part that may be refused. -/
theorem accepts_dataSampling :
  DataSampling.codec.Accepts (dataSampling.value b.slotValue b.stringText)
    ↔ b.AtMost "DATA_SAMPLING_NUM_WORKERS" 0xffffffff
  := by
  unfold dataSampling DataSampling.codec
  simp (disch := decide) [label, lookup_cons_eq, accepts_bare_boolean admitted,
    accepts_bare_count admitted, Width.greatest, accepts_curriculumLearning admitted]

/-- The domain of the seed is that of its field. -/
theorem accepts_dataEfficiency :
  DataEfficiency.codec.Accepts (dataEfficiency.value b.slotValue b.stringText)
    ↔ b.AtMost "DATA_SAMPLING_NUM_WORKERS" 0xffffffff
  := by
  have documented : HasDomain "DATA_EFFICIENCY_SEED" .integer := by decide
  obtain ⟨v, bound, inDomain⟩ := admitted.exists_value documented
  obtain ⟨value, integer, small⟩ := Domain.admits_integer_iff.1 inDomain
  have seed : Width.least .signed64 ≤ value ∧ value ≤ Width.greatest .signed64 := by
    obtain ⟨fits, -⟩ := integer
    exact ⟨fits.1, Int.le_of_lt_add_one small⟩
  unfold dataEfficiency DataEfficiency.codec
  simp (disch := decide) [label, lookup_cons_eq, accepts_bare_whole bound integer, seed,
    accepts_dataRouting admitted, accepts_dataSampling admitted]

/-- The configuration is accepted exactly if the four integers fit. -/
theorem accepts_config :
  Config.codec.Accepts (config.value b.slotValue b.stringText) ↔ b.WithinWidths
  := by
  unfold config Config.codec
  simp (disch := decide) [label, lookup_cons_eq, accepts_bare_boolean admitted,
    accepts_bare_count admitted, Width.greatest, accepts_zeroOptimization admitted, accepts_fp16,
    accepts_dataEfficiency admitted, Bindings.withinWidths_iff]

end

end BuiltinOutline

/-! ### Rendering and loading -/

/-- What a domain admits is whole, unless any number will do. -/
theorem Domain.whole_of_admits {d : Domain} (bounded : d ≠ .number) {v : Scalar}
    (admitted : d.admits v = true) :
  v.Whole
  := by
  match v with
  | .boolean b => trivial
  | .text s => trivial
  | .number (.integer value fits) => trivial
  | .number (.float x) =>
    cases d with
    | number => contradiction
    | _ => simp [admits, Number.toUnsigned?, Number.toSigned?, Number.toInt?] at admitted

/-- Admitted values fit the built-in template. -/
theorem Bindings.Admitted.fitting {b : Bindings} (admitted : b.Admitted) (mode : RenderMode) :
  builtinSheet.Fitting b mode
  where
  covered name mem := by
    rw [mem_names_builtinSheet] at mem
    obtain ⟨entry, isEntry, rfl⟩ := List.mem_map.1 mem
    obtain ⟨v, bound, inDomain⟩ := admitted.exists_value ⟨entry, isEntry, rfl, rfl⟩
    refine ⟨v, bound, ?_⟩
    by_cases anyNumber : entry.domain = .number
    · obtain ⟨value, fits, rfl⟩ := admitted.whole entry isEntry anyNumber v bound
      trivial
    · exact Domain.whole_of_admits anyNumber inDomain
  known _ name bound := by
    rw [mem_names_builtinSheet, ← admitted.names]
    exact bound

/-- A configuration is loaded from a value exactly if the codec accepts it. -/
theorem exists_ofValue_iff (value : Value) :
  (∃ c, Config.ofValue value = .ok c) ↔ Config.codec.Accepts value
  := by
  simp only [Config.ofValue, Config.ofDocument, Codec.readDocument, Document.readWith,
    Document.ofValue, Codec.Accepts]
  cases Config.codec.read (Node.ofValue value) with
  | error fault => simp [Except.mapError]
  | ok c => simp [Except.mapError]

/-- The built-in template with admitted values has the value of its outline. -/
theorem exists_render_builtin {b : Bindings} (admitted : b.Admitted) (mode : RenderMode) :
  ∃ r, Template.builtin.render b mode = .ok r
    ∧ r.value = builtinSheet.root.value b.slotValue b.stringText
  := by
  have fitting := admitted.fitting mode
  have rendered := Template.render_of_ready (fitting.ready builtinName)
  rw [builtinSheet.toValue_filledChars builtinName depth_builtinSheet fitting.covered,
    builtinSheet_template] at rendered
  exact ⟨_, rendered, rfl⟩

/-- **Loading admitted values.**  The built-in template is rendered with all admitted values, and
the configuration is loaded exactly if four integers fit into its fields. -/
theorem exists_config_builtin_iff {b : Bindings} (admitted : b.Admitted) (pretty : Bool) :
  ∃ r, Template.builtin.render b ⟨true, pretty⟩ = .ok r
    ∧ ((∃ c, Config.ofValue r.value = .ok c) ↔ b.WithinWidths)
  := by
  obtain ⟨r, rendered, same⟩ := exists_render_builtin admitted ⟨true, pretty⟩
  refine ⟨r, rendered, ?_⟩
  rw [same, exists_ofValue_iff]
  exact BuiltinOutline.accepts_config admitted

/-- One worker more than the field holds keeps the configuration from being loaded. -/
theorem exists_config_pretraining :
  (∃ r, Template.builtin.render (pretrainingValues 0xffffffff) ⟨true, false⟩ = .ok r
      ∧ ∃ c, Config.ofValue r.value = .ok c)
    ∧ ∃ r, Template.builtin.render (pretrainingValues 0x100000000) ⟨true, false⟩ = .ok r
      ∧ ¬∃ c, Config.ofValue r.value = .ok c
  := by
  constructor
  · obtain ⟨r, rendered, loads⟩ := exists_config_builtin_iff
      (admitted_pretrainingValues (.inl rfl)) false
    refine ⟨r, rendered, loads.2 ?_⟩
    rw [withinWidths_pretrainingValues]
    decide
  · obtain ⟨r, rendered, loads⟩ := exists_config_builtin_iff
      (admitted_pretrainingValues (.inr rfl)) false
    refine ⟨r, rendered, ?_⟩
    rw [loads, withinWidths_pretrainingValues]
    decide

end ConfigTemplate
