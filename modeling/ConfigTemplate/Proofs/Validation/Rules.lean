import ConfigTemplate.Proofs.Validation.Report
import ConfigTemplate.Validation.Basic
import Mathlib.Data.List.Nodup
import Mathlib.Tactic.MkIffOfInductiveProp

/-!
# The rules of validation

The rules that a training configuration has to keep, said without the messages: one predicate for
each section, and for each section the fact that its messages are faultless exactly if its rule is
kept.  So a configuration passes exactly if it keeps all rules.
-/

namespace ConfigTemplate

namespace Binary64

variable {x y : Binary64}

@[simp]
theorem not_lt :
  ¬x < y ↔ y ≤ x
  := Int.not_lt

@[simp]
theorem not_le :
  ¬x ≤ y ↔ y < x
  := Int.not_le

end Binary64

namespace Validation

open Training

/-! ### The rules -/

/-- The sizes of batches are positive, and the global batch consists of whole micro batches. -/
@[mk_iff]
structure BatchRule (c : Config) : Prop where
  global_pos : 0 < c.trainBatchSize.value
  micro_pos : 0 < c.trainMicroBatchSizePerGpu.value
  micro_le : c.trainMicroBatchSizePerGpu.value ≤ c.trainBatchSize.value
  micro_dvd : c.trainMicroBatchSizePerGpu.value ∣ c.trainBatchSize.value

/-- The scaling of the loss has a scale from zero up, a window and a positive least scale. -/
@[mk_iff]
structure ScalingRule (f : Fp16) : Prop where
  scale_nonneg : zero ≤ f.lossScale.toBinary
  window_pos : 0 < f.lossScaleWindow.value
  minScale_pos : zero < f.minLossScale.toBinary

/-- The layers that drop tokens are as many as declared, below the total, and different. -/
@[mk_iff]
structure LayerRule (ltd : RandomLtd) : Prop where
  declared_le : ltd.layerNum.value ≤ ltd.totalLayerNum.value
  length_eq : (ltd.layerIds.length : Int) = ltd.layerNum.value
  below : ∀ id ∈ ltd.layerIds, id.value < ltd.totalLayerNum.value
  distinct : ltd.layerIds.Nodup

/-- The ramp of the number of kept tokens goes up from zero or more, in a positive number of
steps. -/
@[mk_iff]
structure TokenScheduleRule (s : TokenSchedule) : Prop where
  minValue_le : s.minValue.toBinary ≤ s.maxValue.toBinary
  minValue_nonneg : zero ≤ s.minValue.toBinary
  steps_pos : zero < s.scheduleConfig.requireSteps.toBinary

/-- A metric has both paths, bounds in order, and a positive ramp. -/
@[mk_iff]
structure MetricRule (m : Metric) : Prop where
  samplePath : Text.isBlankText m.indexToSamplePath = false
  metricPath : Text.isBlankText m.indexToMetricPath = false
  difficulty_le : m.minDifficulty.toBinary ≤ m.maxDifficulty.toBinary
  totalStep_pos : zero < m.scheduleConfig.totalCurriculumStep.toBinary
  difficultyStep_pos : zero < m.scheduleConfig.difficultyStep.toBinary
  rootDegree_pos : zero < m.scheduleConfig.rootDegree.toBinary

/-- A curriculum has a path for its clusters and at least one metric, and keeps the rule of
each. -/
@[mk_iff]
structure CurriculumRule (c : CurriculumLearning) : Prop where
  clusterPath : Text.isBlankText c.dataClusterPath = false
  metrics_ne : c.metrics.entries ≠ []
  each : ∀ entry ∈ c.metrics.entries, MetricRule entry.2

/-- A configuration keeps all rules.  The schedule of token dropping, the scaling of the loss and
the curriculum matter only where they are enabled, the layers that drop tokens always. -/
@[mk_iff]
structure KeepsRules (c : Config) : Prop where
  batch : BatchRule c
  logging : 0 < c.stepsPerPrint.value
  stage : c.zeroOptimization.stage.value ≤ 3
  scaling : c.fp16.enabled = true → ScalingRule c.fp16
  layers : LayerRule c.dataEfficiency.dataRouting.randomLtd
  tokenSchedule : c.dataEfficiency.dataRouting.randomLtd.enabled = true →
    TokenScheduleRule c.dataEfficiency.dataRouting.randomLtd.schedule
  curriculum : c.dataEfficiency.dataSampling.curriculumLearning.enabled = true →
    CurriculumRule c.dataEfficiency.dataSampling.curriculumLearning

/-! ### Training -/

theorem faultless_batchMessages (c : Config) :
  Faultless (batchMessages c) ↔ BatchRule c
  := by
  rw [batchRule_iff, Int.dvd_iff_emod_eq_zero]
  simp only [batchMessages, Bool.or_eq_true, decide_eq_true_eq, each_append, each_ite,
    each_cons, each_nil, ne_eq, reduceCtorEq, not_true, not_false_iff, and_true,
    implies_true, imp_false]
  grind

theorem faultless_loggingMessages (c : Config) :
  Faultless (loggingMessages c) ↔ 0 < c.stepsPerPrint.value
  := by
  simp [loggingMessages]

theorem faultless_zeroMessages (c : Config) :
  Faultless (zeroMessages c) ↔ c.zeroOptimization.stage.value ≤ 3
  := by
  change _ ↔ c.zeroOptimization.stage.value ≤ maxZeroStage
  simp [zeroMessages]

theorem faultless_fp16Messages (c : Config) :
  Faultless (fp16Messages c) ↔ (c.fp16.enabled = true → ScalingRule c.fp16)
  := by
  have window : 0 < c.fp16.lossScaleWindow.value ↔ c.fp16.lossScaleWindow.value ≠ 0 := by
    have := c.fp16.lossScaleWindow.inRange.1
    simp only [Json.Width.least] at this
    omega
  simp [fp16Messages, scalingRule_iff, window]

/-! ### Token dropping -/

theorem mem_insertInteger {x value : Int} {values : List Int} :
  x ∈ insertInteger value values ↔ x = value ∨ x ∈ values
  := by
  induction values with
  | nil => simp [insertInteger]
  | cons other rest ih =>
    unfold insertInteger
    grind

/-- A number is listed if it was seen before, or occurs once more after its first occurrence. -/
theorem mem_repeatedAfter {x : Int} {seen values : List Int} :
  x ∈ repeatedAfter seen values ↔ (x ∈ values ∧ x ∈ seen) ∨ 1 < values.count x
  := by
  induction values generalizing seen with
  | nil => simp [repeatedAfter]
  | cons value rest ih =>
    have occurs : 0 < rest.count x ↔ x ∈ rest := List.count_pos_iff
    unfold repeatedAfter
    split
    · next known =>
      rw [mem_insertInteger, ih, List.count_cons]
      grind
    · next new =>
      rw [ih, List.count_cons]
      grind

/-- The duplicates are the numbers that occur more than once. -/
theorem mem_duplicates {x : Int} {values : List Int} :
  x ∈ duplicates values ↔ 1 < values.count x
  := by
  simp [duplicates, mem_repeatedAfter]

theorem duplicates_eq_nil_iff {values : List Int} :
  duplicates values = [] ↔ values.Nodup
  := by
  simp [List.eq_nil_iff_forall_not_mem, mem_duplicates, List.nodup_iff_count]

@[simp]
theorem severity_routingError (text : String) :
  (routingError text).severity = .error
  := rfl

@[simp]
theorem severity_routingWarning (text : String) :
  (routingWarning text).severity = .warning
  := rfl

/-- A whole number is known by its value. -/
theorem value_injective {width : Json.Width} :
  Function.Injective (Json.Whole.value : Json.Whole width → Int)
  := by
  rintro ⟨value, _⟩ ⟨_, _⟩ rfl
  rfl

theorem duplicates_layerIds_eq_nil_iff {ids : List (Json.Whole .unsigned32)} :
  duplicates (ids.map Json.Whole.value) = [] ↔ ids.Nodup
  := by
  rw [duplicates_eq_nil_iff, List.nodup_map_iff value_injective]

theorem faultless_layerMessages (ltd : RandomLtd) :
  Faultless (layerMessages ltd) ↔ LayerRule ltd
  := by
  simp [layerMessages, layerRule_iff, duplicates_layerIds_eq_nil_iff]

theorem faultless_tokenScheduleMessages (ltd : RandomLtd) :
  Faultless (tokenScheduleMessages ltd) ↔ TokenScheduleRule ltd.schedule
  := by
  simp [tokenScheduleMessages, tokenScheduleRule_iff]

theorem faultless_routingMessages (c : Config) :
  Faultless (routingMessages c)
    ↔ LayerRule c.dataEfficiency.dataRouting.randomLtd
      ∧ (c.dataEfficiency.dataRouting.randomLtd.enabled = true →
        TokenScheduleRule c.dataEfficiency.dataRouting.randomLtd.schedule)
  := by
  simp [routingMessages, faultless_layerMessages, faultless_tokenScheduleMessages]

/-! ### Curriculum learning -/

@[simp]
theorem severity_curriculumError (text : String) :
  (curriculumError text).severity = .error
  := rfl

@[simp]
theorem severity_curriculumWarning (text : String) :
  (curriculumWarning text).severity = .warning
  := rfl

@[simp]
theorem faultless_knownMessages (text : String) (known : Bool) :
  Faultless (knownMessages text known)
  := by
  simp [knownMessages]

/-- A path that leads nowhere is worth a warning only. -/
@[simp]
theorem faultless_pathMessages (check : PathCheck) (label path : String) :
  Faultless (pathMessages check label path) ↔ Text.isBlankText path = false
  := by
  cases check with
  | none => simp [pathMessages]
  | some present => simp [pathMessages]

@[simp]
theorem faultless_positiveMessages (name field : String) (value : Number) :
  Faultless (positiveMessages name field value) ↔ zero < value.toBinary
  := by
  simp [positiveMessages]

theorem faultless_metricMessages (check : PathCheck) (name : String) (m : Metric) :
  Faultless (metricMessages check name m) ↔ MetricRule m
  := by
  simp [metricMessages, metricRule_iff]

theorem faultless_enabledCurriculumMessages (check : PathCheck) (c : CurriculumLearning) :
  Faultless (enabledCurriculumMessages check c) ↔ CurriculumRule c
  := by
  rw [curriculumRule_iff]
  by_cases none : c.metrics.entries = []
  · simp [enabledCurriculumMessages, Dictionary.isEmpty, none]
  · simp [enabledCurriculumMessages, Dictionary.isEmpty, none, faultless_metricMessages]

theorem faultless_curriculumMessages (check : PathCheck) (c : Config) :
  Faultless (curriculumMessages check c)
    ↔ (c.dataEfficiency.dataSampling.curriculumLearning.enabled = true →
      CurriculumRule c.dataEfficiency.dataSampling.curriculumLearning)
  := by
  simp [curriculumMessages, faultless_enabledCurriculumMessages]

/-! ### All sections -/

/-- The messages on a configuration are faultless exactly if it keeps all rules. -/
theorem faultless_validationMessages (check : PathCheck) (c : Config) :
  Faultless (validationMessages check c) ↔ KeepsRules c
  := by
  simp only [validationMessages, each_append, faultless_batchMessages,
    faultless_loggingMessages, faultless_zeroMessages, faultless_fp16Messages,
    faultless_routingMessages, faultless_curriculumMessages, keepsRules_iff, and_assoc]

/-! ### Division -/

/-- Quotient and remainder of signed 64-bit integers, rounded towards zero.  There are none by
zero, and none where the quotient does not fit. -/
def divide? (a b : Int) : Option (Int × Int) :=
  if b = 0 ∨ (a = -0x8000000000000000 ∧ b = -1) then none else some (a.tdiv b, a.tmod b)

theorem divide?_of_pos {a b : Int} (nonneg : 0 ≤ a) (pos : 0 < b) :
  divide? a b = some (a / b, a % b)
  := by
  have defined : ¬(b = 0 ∨ (a = -0x8000000000000000 ∧ b = -1)) := by omega
  rw [divide?, if_neg defined, Int.tdiv_eq_ediv_of_nonneg nonneg, Int.tmod_eq_emod_of_nonneg nonneg]

/-- The messages on the sizes of batches, with a division that may fail. -/
def batchMessages? (c : Config) : Option (List Message) :=
  let whole := c.trainBatchSize.value
  let part := c.trainMicroBatchSizePerGpu.value
  let error (text : String) : Message := ⟨text, .error, "batch"⟩
  let signs := (if whole ≤ 0 then [error "train_batch_size must be positive"] else [])
    ++ (if part ≤ 0 then [error "train_micro_batch_size_per_gpu must be positive"] else [])
  if whole ≤ 0 || part ≤ 0 then some signs
  else if whole < part then
    some [error ("Micro batch size " ++ Number.integerText part ++ " exceeds global batch size "
      ++ Number.integerText whole)]
  else do
    let (quotient, remainder) ← divide? whole part
    if remainder ≠ 0 then
      return [error ("Global batch size " ++ Number.integerText whole
        ++ " is not divisible by micro batch size " ++ Number.integerText part)]
    else
      return [⟨"Global batch " ++ Number.integerText whole ++ " = "
        ++ Number.integerText quotient ++ " micro batches of " ++ Number.integerText part
        ++ " (accumulation x data-parallel)", .info, "batch"⟩]

/-- The batch is divided only where both sizes are positive, so the division never fails. -/
theorem batchMessages?_eq (c : Config) :
  batchMessages? c = some (batchMessages c)
  := by
  unfold batchMessages? batchMessages
  by_cases signs : c.trainBatchSize.value ≤ 0 ∨ c.trainMicroBatchSizePerGpu.value ≤ 0
  · simp [signs]
  · obtain ⟨globalPos, microPos⟩ := not_or.1 signs
    have divided := divide?_of_pos (Int.le_of_lt (Int.not_le.1 globalPos)) (Int.not_le.1 microPos)
    by_cases exceeds : c.trainBatchSize.value < c.trainMicroBatchSizePerGpu.value
    · simp [globalPos, microPos, exceeds]
    · by_cases rest : c.trainBatchSize.value % c.trainMicroBatchSizePerGpu.value = 0
      · simp [globalPos, microPos, exceeds, divided, rest]
      · simp [globalPos, microPos, exceeds, divided, rest]

/-- The report on a configuration, with a division that may fail. -/
def validate? (check : PathCheck) (c : Config) : Option Report :=
  (batchMessages? c).map fun batch =>
    .ofMessages (batch ++ loggingMessages c ++ zeroMessages c ++ fp16Messages c
      ++ routingMessages c ++ curriculumMessages check c)

end Validation

open Validation

/-- **Verdicts.**  A report passes exactly if it holds no error, and exactly if the configuration
keeps all rules, whichever paths are looked up.  Validation never divides by zero nor beyond the
range of the integers. -/
theorem passed_validate_iff (check : PathCheck) (c : Training.Config) :
  ((validate check c).passed = true ↔ ∀ m ∈ (validate check c).messages, m.severity ≠ .error)
    ∧ ((validate check c).passed = true ↔ KeepsRules c)
    ∧ validate? check c = some (validate check c)
  := by
  have passes : (validate check c).passed = true ↔ Faultless (validationMessages check c) :=
    Report.passed_ofMessages_iff _
  refine ⟨?_, ?_, ?_⟩
  · rw [passes, validate, Report.messages_ofMessages]
    rfl
  · rw [passes, faultless_validationMessages]
  · rw [validate?, batchMessages?_eq]
    rfl

end ConfigTemplate
