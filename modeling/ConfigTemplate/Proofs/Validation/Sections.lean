import ConfigTemplate.Proofs.Dictionary
import ConfigTemplate.Proofs.Training.Known
import ConfigTemplate.Proofs.Validation.Report
import ConfigTemplate.Validation.Basic
import Mathlib.Data.List.Infix
import Mathlib.Data.List.Basic

/-!
# Sections of reports

Every message names the category that it belongs to, and the messages of a category make up a section
of the report.  A report consists of its sections, in a fixed order, and a section depends on the
fields of its own part of the configuration alone: `sections_independent`.
-/

namespace ConfigTemplate

/-- The messages of a category, in their order. -/
def Report.ofCategory (r : Report) (category : String) : List Message :=
  r.messages.filter (·.category == category)

namespace Validation

open Training

/-! ### The section of a category -/

/-- The messages of each section under the name of their category, in the order of the report. -/
def sections (check : PathCheck) (c : Config) : List (String × List Message) := [
  ("batch", batchMessages c),
  ("logging", loggingMessages c),
  ("zero", zeroMessages c),
  ("fp16", fp16Messages c),
  ("random_ltd", routingMessages c),
  ("curriculum", curriculumMessages check c)]

/-- The categories in the order in which their messages are reported. -/
def categories : List String := ["batch", "logging", "zero", "fp16", "random_ltd", "curriculum"]

/-- If each list has its own category, the messages of a category are those of its list. -/
theorem filter_flatMap_sections {parts : List (String × List Message)}
    (distinct : (parts.map Prod.fst).Nodup)
    (own : ∀ part ∈ parts, Each (·.category = part.1) part.2) :
  ∀ part ∈ parts, (parts.flatMap Prod.snd).filter (·.category == part.1) = part.2
  := by
  induction parts with
  | nil => simp
  | cons first rest ih =>
    rw [List.map_cons, List.nodup_cons] at distinct
    obtain ⟨ownFirst, ownRest⟩ := List.forall_mem_cons.1 own
    have others (part : String × List Message) (mem : part ∈ rest) : first.1 ≠ part.1 := by
      intro same
      exact distinct.1 (List.mem_map.2 ⟨part, mem, same.symm⟩)
    intro part mem
    rw [List.flatMap_cons, List.filter_append]
    rcases List.mem_cons.1 mem with rfl | mem
    · have all : part.2.filter (·.category == part.1) = part.2 := by
        apply List.filter_eq_self.2
        intro m inFirst
        simpa using ownFirst m inFirst
      have none : (rest.flatMap Prod.snd).filter (·.category == part.1) = [] := by
        simp only [List.filter_eq_nil_iff, List.mem_flatMap]
        rintro m ⟨other, inRest, inOther⟩
        have := ownRest other inRest m inOther
        have := others other inRest
        grind
      rw [all, none, List.append_nil]
    · have none : first.2.filter (·.category == part.1) = [] := by
        apply List.filter_eq_nil_iff.2
        intro m inFirst
        have := ownFirst m inFirst
        have := others part mem
        grind
      rw [none, List.nil_append]
      exact ih distinct.2 ownRest part mem

/-- The messages of a list have the category. -/
abbrev Categorized (category : String) : List Message → Prop := Each (·.category = category)

theorem categorized_batchMessages (c : Config) :
  Categorized "batch" (batchMessages c)
  := by
  simp [batchMessages]

theorem categorized_loggingMessages (c : Config) :
  Categorized "logging" (loggingMessages c)
  := by
  simp [loggingMessages]

theorem categorized_zeroMessages (c : Config) :
  Categorized "zero" (zeroMessages c)
  := by
  simp [zeroMessages]

theorem categorized_fp16Messages (c : Config) :
  Categorized "fp16" (fp16Messages c)
  := by
  simp [fp16Messages]

@[simp]
theorem category_routingError (text : String) :
  (routingError text).category = "random_ltd"
  := rfl

@[simp]
theorem text_routingError (text : String) :
  (routingError text).text = text
  := rfl

@[simp]
theorem category_routingWarning (text : String) :
  (routingWarning text).category = "random_ltd"
  := rfl

theorem categorized_routingMessages (c : Config) :
  Categorized "random_ltd" (routingMessages c)
  := by
  simp [routingMessages, layerMessages, tokenScheduleMessages]

@[simp]
theorem category_curriculumError (text : String) :
  (curriculumError text).category = "curriculum"
  := rfl

@[simp]
theorem text_curriculumError (text : String) :
  (curriculumError text).text = text
  := rfl

@[simp]
theorem category_curriculumWarning (text : String) :
  (curriculumWarning text).category = "curriculum"
  := rfl

theorem categorized_pathMessages (check : PathCheck) (label path : String) :
  Categorized "curriculum" (pathMessages check label path)
  := by
  cases check with
  | none => simp [pathMessages]
  | some present => simp [pathMessages]

theorem categorized_metricMessages (check : PathCheck) (name : String) (m : Metric) :
  Categorized "curriculum" (metricMessages check name m)
  := by
  simp [metricMessages, knownMessages, positiveMessages, categorized_pathMessages]

theorem categorized_curriculumMessages (check : PathCheck) (c : Config) :
  Categorized "curriculum" (curriculumMessages check c)
  := by
  simp [curriculumMessages, enabledCurriculumMessages, categorized_pathMessages,
    categorized_metricMessages]

/-- The section of a category is what the rules of that category give. -/
theorem ofCategory_validate {check : PathCheck} {c : Config} {part : String × List Message}
    (mem : part ∈ sections check c) :
  (validate check c).ofCategory part.1 = part.2
  := by
  have distinct : ((sections check c).map Prod.fst).Nodup := by
    change categories.Nodup
    decide
  have own : ∀ part ∈ sections check c, Categorized part.1 part.2 := by
    simp [sections, categorized_batchMessages, categorized_loggingMessages,
      categorized_zeroMessages, categorized_fp16Messages, categorized_routingMessages,
      categorized_curriculumMessages]
  have whole : (validate check c).messages = (sections check c).flatMap Prod.snd := by
    simp [validate, validationMessages, sections]
  rw [Report.ofCategory, whole]
  exact filter_flatMap_sections distinct own part mem

/-- A report has a message exactly if the section of its category has it. -/
theorem mem_validate_iff {check : PathCheck} {c : Config} {part : String × List Message}
    (mem : part ∈ sections check c) {m : Message} (own : m.category = part.1) :
  m ∈ (validate check c).messages ↔ m ∈ part.2
  := by
  rw [← ofCategory_validate mem, Report.ofCategory, List.mem_filter]
  simp [own]

/-! ### What a section depends on -/

/-- The configuration with another routing of tokens. -/
def withRouting (c : Config) (r : DataRouting) : Config :=
  { c with dataEfficiency := { c.dataEfficiency with dataRouting := r } }

/-- The configuration with another sampling of data. -/
def withSampling (c : Config) (s : DataSampling) : Config :=
  { c with dataEfficiency := { c.dataEfficiency with dataSampling := s } }

variable {c d : Config}

theorem batchMessages_congr (global : c.trainBatchSize = d.trainBatchSize)
    (micro : c.trainMicroBatchSizePerGpu = d.trainMicroBatchSizePerGpu) :
  batchMessages c = batchMessages d
  := by simp only [batchMessages, global, micro]

theorem loggingMessages_congr (same : c.stepsPerPrint = d.stepsPerPrint) :
  loggingMessages c = loggingMessages d
  := by simp only [loggingMessages, same]

theorem zeroMessages_congr (same : c.zeroOptimization.stage = d.zeroOptimization.stage) :
  zeroMessages c = zeroMessages d
  := by simp only [zeroMessages, same]

theorem fp16Messages_congr (same : c.fp16.known = d.fp16.known) :
  fp16Messages c = fp16Messages d
  := calc
    fp16Messages c = fp16Messages { d with fp16 := c.fp16.known } := rfl
    _ = fp16Messages { d with fp16 := d.fp16.known } := by rw [same]
    _ = fp16Messages d := rfl

theorem fp16Messages_of_disabled (off : c.fp16.enabled = false) :
  fp16Messages c = []
  := by simp [fp16Messages, off]

theorem routingMessages_congr
    (same : c.dataEfficiency.dataRouting.known = d.dataEfficiency.dataRouting.known) :
  routingMessages c = routingMessages d
  := calc
    routingMessages c = routingMessages (withRouting d c.dataEfficiency.dataRouting.known) := rfl
    _ = routingMessages (withRouting d d.dataEfficiency.dataRouting.known) := by rw [same]
    _ = routingMessages d := rfl

/-- The rules on layers look at the layers and their numbers alone. -/
theorem layerMessages_congr {l m : RandomLtd} (total : l.totalLayerNum = m.totalLayerNum)
    (declared : l.layerNum = m.layerNum) (ids : l.layerIds = m.layerIds) :
  layerMessages l = layerMessages m
  := by simp only [layerMessages, total, declared, ids]

theorem routingMessages_of_disabled (off : c.dataEfficiency.dataRouting.randomLtd.enabled = false)
    (alsoOff : d.dataEfficiency.dataRouting.randomLtd.enabled = false)
    (routing : c.dataEfficiency.dataRouting.enabled = d.dataEfficiency.dataRouting.enabled)
    (total : c.dataEfficiency.dataRouting.randomLtd.totalLayerNum
      = d.dataEfficiency.dataRouting.randomLtd.totalLayerNum)
    (declared : c.dataEfficiency.dataRouting.randomLtd.layerNum
      = d.dataEfficiency.dataRouting.randomLtd.layerNum)
    (ids : c.dataEfficiency.dataRouting.randomLtd.layerIds
      = d.dataEfficiency.dataRouting.randomLtd.layerIds) :
  routingMessages c = routingMessages d
  := by
  simp only [routingMessages, routing, off, alsoOff, layerMessages_congr total declared ids]
  rfl

/-- The configuration with other layers that drop tokens. -/
def withLayerIds (c : Config) (ids : List (Json.Whole .unsigned32)) : Config :=
  withRouting c { c.dataEfficiency.dataRouting with
    randomLtd := { c.dataEfficiency.dataRouting.randomLtd with layerIds := ids } }

/-- The message says that the layers are not as many as declared. -/
def IsMiscount (m : Message) : Prop :=
  "random_ltd_layer_id ".toList <+: m.text.toList

theorem not_prefix_append {p q : List Char} (apart : ¬p <+: q) (alsoApart : ¬q <+: p)
    (rest : List Char) :
  ¬p <+: q ++ rest
  := by
  intro before
  rcases List.prefix_or_prefix_of_prefix before (List.prefix_append q rest) with short | long
  · exact apart short
  · exact alsoApart long

/-- Among the messages on layers, the one on a wrong number of them is there exactly if the number
is wrong. -/
theorem exists_isMiscount_iff (ltd : RandomLtd) :
  (∃ m ∈ layerMessages ltd, IsMiscount m) ↔ (ltd.layerIds.length : Int) ≠ ltd.layerNum.value
  := by
  have exceeding (rest : List Char) := not_prefix_append
    (by decide : ¬"random_ltd_layer_id ".toList <+: "random_ltd_layer_num ".toList)
    (by decide) rest
  have outside (rest : List Char) := not_prefix_append
    (by decide : ¬"random_ltd_layer_id ".toList <+: "Layer ids not below total_layer_num ".toList)
    (by decide) rest
  have repeated (rest : List Char) := not_prefix_append
    (by decide : ¬"random_ltd_layer_id ".toList <+: "Duplicate layer ids: ".toList)
    (by decide) rest
  have own : "random_ltd_layer_id ".toList <+: "random_ltd_layer_id has ".toList := by decide
  simp only [layerMessages, List.mem_append, List.mem_ite_nil_right, List.mem_singleton,
    List.length_map]
  constructor
  · rintro ⟨m, ((⟨-, rfl⟩ | ⟨wrong, rfl⟩) | ⟨-, rfl⟩) | ⟨-, rfl⟩, miscount⟩
    · simp only [IsMiscount, text_routingError, String.toList_append, List.append_assoc] at miscount
      exact absurd miscount (exceeding _)
    · exact wrong
    · simp only [IsMiscount, text_routingError, String.toList_append, List.append_assoc] at miscount
      exact absurd miscount (outside _)
    · simp only [IsMiscount, text_routingError, String.toList_append] at miscount
      exact absurd miscount (repeated _)
  · intro wrong
    refine ⟨_, .inl (.inl (.inr ⟨wrong, rfl⟩)), ?_⟩
    simp only [IsMiscount, text_routingError, String.toList_append, List.append_assoc]
    exact List.IsPrefix.trans own (List.prefix_append _ _)

/-- Whatever a configuration says, the layers that it names matter: with other ones it has other
messages, token dropping enabled or not. -/
theorem exists_layerIds_ne (c : Config) :
  ∃ ids, routingMessages (withLayerIds c ids) ≠ routingMessages c
  := by
  obtain ⟨ids, change⟩ : ∃ ids : List (Json.Whole .unsigned32),
      ¬((ids.length : Int) ≠ c.dataEfficiency.dataRouting.randomLtd.layerNum.value ↔
        (c.dataEfficiency.dataRouting.randomLtd.layerIds.length : Int)
          ≠ c.dataEfficiency.dataRouting.randomLtd.layerNum.value) := by
    let none : Json.Whole .unsigned32 := ⟨0, by decide⟩
    have least := c.dataEfficiency.dataRouting.randomLtd.layerNum.inRange.1
    by_cases right : (c.dataEfficiency.dataRouting.randomLtd.layerIds.length : Int)
        = c.dataEfficiency.dataRouting.randomLtd.layerNum.value
    · refine ⟨none :: c.dataEfficiency.dataRouting.randomLtd.layerIds, ?_⟩
      rw [List.length_cons]
      omega
    · refine ⟨List.replicate c.dataEfficiency.dataRouting.randomLtd.layerNum.value.toNat none, ?_⟩
      rw [List.length_replicate]
      have : Json.Width.unsigned32.least = 0 := rfl
      omega
  refine ⟨ids, ?_⟩
  intro same
  have layers : layerMessages { c.dataEfficiency.dataRouting.randomLtd with layerIds := ids }
      = layerMessages c.dataEfficiency.dataRouting.randomLtd :=
    List.append_cancel_left (List.append_cancel_right same)
  apply change
  rw [← exists_isMiscount_iff, ← layers, exists_isMiscount_iff]

/-- A curriculum that is enabled has messages on its path and on its metrics. -/
theorem enabledCurriculumMessages_known (check : PathCheck) (curriculum : CurriculumLearning) :
  enabledCurriculumMessages check curriculum.known = enabledCurriculumMessages check curriculum
  := by
  simp only [enabledCurriculumMessages, CurriculumLearning.known, Dictionary.isEmpty,
    Dictionary.entries_map, List.isEmpty_map, List.flatMap_map]
  rfl

theorem curriculumMessages_known (check : PathCheck) (c : Config) :
  curriculumMessages check (withSampling c c.dataEfficiency.dataSampling.known)
    = curriculumMessages check c
  := by
  simp only [curriculumMessages, withSampling, DataSampling.known, enabledCurriculumMessages_known]
  rfl

theorem curriculumMessages_congr (check : PathCheck)
    (same : c.dataEfficiency.dataSampling.known = d.dataEfficiency.dataSampling.known) :
  curriculumMessages check c = curriculumMessages check d
  := by
  rw [← curriculumMessages_known check c, ← curriculumMessages_known check d, same]
  rfl

/-- A curriculum that is disabled is worth a remark, and a warning if the sampling is enabled. -/
theorem curriculumMessages_eq_iff_of_disabled (check : PathCheck)
    (off : c.dataEfficiency.dataSampling.curriculumLearning.enabled = false)
    (alsoOff : d.dataEfficiency.dataSampling.curriculumLearning.enabled = false) :
  curriculumMessages check c = curriculumMessages check d ↔
    c.dataEfficiency.dataSampling.enabled = d.dataEfficiency.dataSampling.enabled
  := by
  simp only [curriculumMessages, off, alsoOff]
  cases c.dataEfficiency.dataSampling.enabled <;> cases d.dataEfficiency.dataSampling.enabled <;>
    simp

/-- No rule looks at a member that is not known. -/
theorem validate_known (check : PathCheck) (c : Config) :
  validate check c.known = validate check c
  := by
  have training : batchMessages c.known ++ loggingMessages c.known ++ zeroMessages c.known
      ++ fp16Messages c.known ++ routingMessages c.known
    = batchMessages c ++ loggingMessages c ++ zeroMessages c ++ fp16Messages c
      ++ routingMessages c := rfl
  have curriculum : curriculumMessages check c.known = curriculumMessages check c :=
    curriculumMessages_known check c
  rw [validate, validate, validationMessages, validationMessages, training, curriculum]

/-! ### Independence -/

/-- The reports on the configurations have the same messages of the category. -/
def SameSection (check : PathCheck) (category : String) (c d : Config) : Prop :=
  (validate check c).ofCategory category = (validate check d).ofCategory category

/-- Messages of the same rules make the same sections. -/
theorem sameSection_iff {check : PathCheck} {category : String} {ofFirst ofSecond : List Message}
    (first : (category, ofFirst) ∈ sections check c)
    (second : (category, ofSecond) ∈ sections check d) :
  SameSection check category c d ↔ ofFirst = ofSecond
  := by
  rw [SameSection, ofCategory_validate first, ofCategory_validate second]

/-- A report is made of its sections. -/
theorem messages_validate (check : PathCheck) (c : Config) :
  (validate check c).messages = categories.flatMap (validate check c).ofCategory
  := by
  have parts : (sections check c).flatMap Prod.snd
      = (sections check c).flatMap fun part => (validate check c).ofCategory part.1 := by
    apply List.flatMap_congr
    intro part mem
    exact (ofCategory_validate mem).symm
  have whole : (validate check c).messages = (sections check c).flatMap Prod.snd := by
    simp [validate, validationMessages, sections]
  rw [whole, parts]
  rfl

/-- Each section of a report depends on its own fields alone, and no section hides another one.
Fields that a disabled part would not use do not matter, but the layers that are to drop tokens are
checked even if dropping is disabled. -/
theorem sections_independent (check : PathCheck) :
  (∀ c d : Config,
    (c.trainBatchSize = d.trainBatchSize →
      c.trainMicroBatchSizePerGpu = d.trainMicroBatchSizePerGpu →
      SameSection check "batch" c d) ∧
    (c.stepsPerPrint = d.stepsPerPrint → SameSection check "logging" c d) ∧
    (c.zeroOptimization.stage = d.zeroOptimization.stage → SameSection check "zero" c d) ∧
    (c.fp16.known = d.fp16.known → SameSection check "fp16" c d) ∧
    (c.dataEfficiency.dataRouting.known = d.dataEfficiency.dataRouting.known →
      SameSection check "random_ltd" c d) ∧
    (c.dataEfficiency.dataRouting.randomLtd.enabled = false →
      d.dataEfficiency.dataRouting.randomLtd.enabled = false →
      c.dataEfficiency.dataRouting.enabled = d.dataEfficiency.dataRouting.enabled →
      c.dataEfficiency.dataRouting.randomLtd.totalLayerNum
        = d.dataEfficiency.dataRouting.randomLtd.totalLayerNum →
      c.dataEfficiency.dataRouting.randomLtd.layerNum
        = d.dataEfficiency.dataRouting.randomLtd.layerNum →
      c.dataEfficiency.dataRouting.randomLtd.layerIds
        = d.dataEfficiency.dataRouting.randomLtd.layerIds →
      SameSection check "random_ltd" c d) ∧
    (c.dataEfficiency.dataSampling.known = d.dataEfficiency.dataSampling.known →
      SameSection check "curriculum" c d) ∧
    (c.dataEfficiency.dataSampling.curriculumLearning.enabled = false →
      d.dataEfficiency.dataSampling.curriculumLearning.enabled = false →
      (SameSection check "curriculum" c d ↔
        c.dataEfficiency.dataSampling.enabled = d.dataEfficiency.dataSampling.enabled))) ∧
  (∀ c : Config,
    (c.fp16.enabled = false → (validate check c).ofCategory "fp16" = []) ∧
    (∃ ids, ¬SameSection check "random_ltd" (withLayerIds c ids) c) ∧
    (validate check c).messages = categories.flatMap (validate check c).ofCategory)
  := by
  have batch (c : Config) : ("batch", batchMessages c) ∈ sections check c := by simp [sections]
  have logging (c : Config) : ("logging", loggingMessages c) ∈ sections check c := by
    simp [sections]
  have optimizer (c : Config) : ("zero", zeroMessages c) ∈ sections check c := by simp [sections]
  have scaling (c : Config) : ("fp16", fp16Messages c) ∈ sections check c := by simp [sections]
  have routing (c : Config) : ("random_ltd", routingMessages c) ∈ sections check c := by
    simp [sections]
  have curriculum (c : Config) : ("curriculum", curriculumMessages check c) ∈ sections check c := by
    simp [sections]
  constructor
  · intro c d
    rw [sameSection_iff (batch c) (batch d), sameSection_iff (logging c) (logging d),
      sameSection_iff (optimizer c) (optimizer d), sameSection_iff (scaling c) (scaling d),
      sameSection_iff (routing c) (routing d), sameSection_iff (curriculum c) (curriculum d)]
    exact ⟨batchMessages_congr, loggingMessages_congr, zeroMessages_congr, fp16Messages_congr,
      routingMessages_congr, routingMessages_of_disabled, curriculumMessages_congr check,
      curriculumMessages_eq_iff_of_disabled check⟩
  · intro c
    refine ⟨?_, ?_, messages_validate check c⟩
    · intro off
      rw [ofCategory_validate (scaling c), fp16Messages_of_disabled off]
    · obtain ⟨ids, other⟩ := exists_layerIds_ne c
      refine ⟨ids, ?_⟩
      rw [sameSection_iff (routing _) (routing c)]
      exact other

end Validation

end ConfigTemplate
