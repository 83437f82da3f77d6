import ConfigTemplate.Proofs.Validation.Rules

/-!
# Warnings on flags

Routing and sampling each have a flag beside the flag of the part that they enable, and a warning
says where the two differ.  All other warnings give a name or a path behind a colon, so the warnings
on flags are told from them by their texts, and each of them is given exactly if its flags differ.
-/

namespace ConfigTemplate.Validation

open Training

/-- The warning that routing is enabled without token dropping, or the other way round. -/
def routingMismatch (routing dropping : Bool) : Message :=
  routingWarning ("data_routing.enabled (" ++ Scalar.booleanText routing
    ++ ") differs from random_ltd.enabled (" ++ Scalar.booleanText dropping ++ ")")

/-- The warning that sampling is enabled without curriculum learning, or the other way round. -/
def samplingMismatch (sampling curriculum : Bool) : Message :=
  curriculumWarning ("data_sampling.enabled (" ++ Scalar.booleanText sampling
    ++ ") differs from curriculum_learning.enabled (" ++ Scalar.booleanText curriculum ++ ")")

/-! ### Warnings with a colon -/

/-- The text of each warning has a colon. -/
abbrev Coloned : List Message → Prop :=
  Each fun m => m.severity = .warning → ':' ∈ m.text.toList

@[simp]
theorem text_routingWarning (text : String) :
  (routingWarning text).text = text
  := rfl

@[simp]
theorem text_curriculumWarning (text : String) :
  (curriculumWarning text).text = text
  := rfl

/-- The sections on training have no warnings at all. -/
theorem coloned_trainingMessages (c : Config) :
  Coloned (batchMessages c ++ loggingMessages c ++ zeroMessages c ++ fp16Messages c)
  := by
  simp only [batchMessages, loggingMessages, zeroMessages, fp16Messages, each_append, each_ite,
    each_cons, each_nil, reduceCtorEq, false_imp_iff, and_true, implies_true]

theorem coloned_layerMessages (ltd : RandomLtd) :
  Coloned (layerMessages ltd)
  := by
  simp [layerMessages]

theorem coloned_tokenScheduleMessages (ltd : RandomLtd) :
  Coloned (tokenScheduleMessages ltd)
  := by
  simp [tokenScheduleMessages]

theorem coloned_pathMessages (check : PathCheck) (label path : String) :
  Coloned (pathMessages check label path)
  := by
  cases check with
  | none => simp [pathMessages]
  | some present => simp [pathMessages]

theorem coloned_metricMessages (check : PathCheck) (name : String) (m : Metric) :
  Coloned (metricMessages check name m)
  := by
  simp [metricMessages, knownMessages, positiveMessages, coloned_pathMessages]

theorem coloned_enabledCurriculumMessages (check : PathCheck) (c : CurriculumLearning) :
  Coloned (enabledCurriculumMessages check c)
  := by
  simp [enabledCurriculumMessages, coloned_pathMessages, coloned_metricMessages]

/-! ### Warnings without one -/

theorem Coloned.not_mem {messages : List Message} (coloned : Coloned messages) {m : Message}
    (warning : m.severity = .warning) (plain : ':' ∉ m.text.toList) :
  m ∉ messages
  := by
  intro mem
  exact plain (coloned m mem warning)

theorem plain_routingMismatch (routing dropping : Bool) :
  ':' ∉ (routingMismatch routing dropping).text.toList
  := by
  revert routing dropping
  decide

theorem plain_samplingMismatch (sampling curriculum : Bool) :
  ':' ∉ (samplingMismatch sampling curriculum).text.toList
  := by
  revert sampling curriculum
  decide

theorem routingMismatch_inj {a b a' b' : Bool} :
  routingMismatch a b = routingMismatch a' b' ↔ a = a' ∧ b = b'
  := by
  revert a b a' b'
  decide

theorem samplingMismatch_inj {a b a' b' : Bool} :
  samplingMismatch a b = samplingMismatch a' b' ↔ a = a' ∧ b = b'
  := by
  revert a b a' b'
  decide

theorem routingMismatch_ne_samplingMismatch (a b a' b' : Bool) :
  routingMismatch a b ≠ samplingMismatch a' b'
  := by
  revert a b a' b'
  decide

/-! ### Reports -/

/-- A section that starts with the warning on its flags has that warning, if they differ, and
messages whose warnings have colons. -/
theorem exists_routingMessages (c : Config) :
  ∃ rest, Coloned rest
    ∧ routingMessages c
      = (if c.dataEfficiency.dataRouting.enabled != c.dataEfficiency.dataRouting.randomLtd.enabled
        then [routingMismatch c.dataEfficiency.dataRouting.enabled
          c.dataEfficiency.dataRouting.randomLtd.enabled] else []) ++ rest
  := by
  refine ⟨_, ?_, List.append_assoc _ _ _⟩
  simp [coloned_layerMessages, coloned_tokenScheduleMessages]

theorem exists_curriculumMessages (check : PathCheck) (c : Config) :
  ∃ rest, Coloned rest
    ∧ curriculumMessages check c
      = (if c.dataEfficiency.dataSampling.enabled
          != c.dataEfficiency.dataSampling.curriculumLearning.enabled
        then [samplingMismatch c.dataEfficiency.dataSampling.enabled
          c.dataEfficiency.dataSampling.curriculumLearning.enabled] else []) ++ rest
  := by
  refine ⟨_, ?_, rfl⟩
  simp [coloned_enabledCurriculumMessages]

/-- The flags of routing are reported as different exactly if they are. -/
theorem routingMismatch_mem_validate (check : PathCheck) (c : Config) (routing dropping : Bool) :
  routingMismatch routing dropping ∈ (validate check c).messages
    ↔ routing = c.dataEfficiency.dataRouting.enabled
      ∧ dropping = c.dataEfficiency.dataRouting.randomLtd.enabled
      ∧ routing ≠ dropping
  := by
  obtain ⟨rest, coloned, routed⟩ := exists_routingMessages c
  obtain ⟨rest', coloned', sampled⟩ := exists_curriculumMessages check c
  have training := (coloned_trainingMessages c).not_mem rfl (plain_routingMismatch routing dropping)
  rw [validate, Report.messages_ofMessages, validationMessages, routed, sampled]
  simp only [List.mem_append, training, coloned.not_mem rfl (plain_routingMismatch _ _),
    coloned'.not_mem rfl (plain_routingMismatch _ _), false_or, or_false, List.mem_ite_nil_right,
    List.mem_singleton, routingMismatch_inj, routingMismatch_ne_samplingMismatch]
  grind

/-- The flags of sampling are reported as different exactly if they are. -/
theorem samplingMismatch_mem_validate (check : PathCheck) (c : Config)
    (sampling curriculum : Bool) :
  samplingMismatch sampling curriculum ∈ (validate check c).messages
    ↔ sampling = c.dataEfficiency.dataSampling.enabled
      ∧ curriculum = c.dataEfficiency.dataSampling.curriculumLearning.enabled
      ∧ sampling ≠ curriculum
  := by
  obtain ⟨rest, coloned, routed⟩ := exists_routingMessages c
  obtain ⟨rest', coloned', sampled⟩ := exists_curriculumMessages check c
  have training :=
    (coloned_trainingMessages c).not_mem rfl (plain_samplingMismatch sampling curriculum)
  rw [validate, Report.messages_ofMessages, validationMessages, routed, sampled]
  simp only [List.mem_append, training, coloned.not_mem rfl (plain_samplingMismatch _ _),
    coloned'.not_mem rfl (plain_samplingMismatch _ _), false_or, or_false,
    List.mem_ite_nil_right, List.mem_singleton, samplingMismatch_inj,
    (routingMismatch_ne_samplingMismatch _ _ _ _).symm]
  grind

end ConfigTemplate.Validation
