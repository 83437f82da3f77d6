import ConfigTemplate.Proofs.Number.Exact
import ConfigTemplate.Proofs.Number.Text
import ConfigTemplate.Proofs.Validation.RoutingErrors

/-!
# Bounds of schedules

The bounds of a schedule keep their exact form, but they are compared as floating point numbers.  So
of two integers that are not in order it may be missed that they are not, if both are at least
`2 ^ 53` and rounding makes them the same: `schedule_order_decided`.
-/

namespace ConfigTemplate.Validation

open Training

/-! ### The error on a metric -/

/-- The error on a metric whose least difficulty exceeds the greatest one. -/
def metricOrderError (name : String) (m : Metric) : Message :=
  curriculumError (name ++ ": min_difficulty " ++ m.minDifficulty.text
    ++ " exceeds max_difficulty " ++ m.maxDifficulty.text)

/-- A text is taken apart at its last blank in one way only. -/
theorem append_blank_inj {front front' back back' : List Char} (word : ' ' ∉ back)
    (word' : ' ' ∉ back') (same : front ++ ' ' :: back = front' ++ ' ' :: back') :
  front = front' ∧ back = back'
  := by
  have noLonger {gap first second : List Char} (notMem : ' ' ∉ first)
      (split : ' ' :: first = gap ++ ' ' :: second) : gap = [] := by
    cases gap with
    | nil => rfl
    | cons c gap =>
      obtain ⟨-, rfl⟩ := List.cons.inj split
      simp at notMem
  rcases List.append_eq_append_iff.1 same with ⟨gap, rfl, split⟩ | ⟨gap, rfl, split⟩
  · obtain rfl := noLonger word split
    simpa using split
  · obtain rfl := noLonger word' split
    simpa using split.symm

theorem blank_notMem_chars (n : Number) :
  ' ' ∉ n.chars
  := by
  intro mem
  have := n.isTextChar_chars ' ' mem
  contradiction

/-- The text of the error, cut in front of its numbers. -/
theorem text_metricOrderError (name : String) (m : Metric) :
  (metricOrderError name m).text.toList
    = ((name.toList ++ ": min_difficulty".toList) ++ ' ' :: m.minDifficulty.chars
        ++ " exceeds max_difficulty".toList) ++ ' ' :: m.maxDifficulty.chars
  := by
  simp [metricOrderError, Number.text]

/-- The error names its metric. -/
theorem eq_of_metricOrderError_eq {name name' : String} {m m' : Metric}
    (same : metricOrderError name m = metricOrderError name' m') :
  name = name'
  := by
  have texts := congrArg (fun message => message.text.toList) same
  simp only [text_metricOrderError] at texts
  have upper := (append_blank_inj (blank_notMem_chars _) (blank_notMem_chars _) texts).1
  have lower := (append_blank_inj (blank_notMem_chars _) (blank_notMem_chars _)
    (List.append_cancel_right upper)).1
  exact String.toList_injective (List.append_cancel_right lower)

/-- A message that is not an error, or an error that does not end in a number. -/
def Worded (m : Message) : Prop :=
  m.severity = .error →
    ∃ c ∈ m.text.toList.getLast?, c ≠ ' ' ∧ Number.isTextChar c = false

theorem not_worded_metricOrderError (name : String) (m : Metric) :
  ¬Worded (metricOrderError name m)
  := by
  intro worded
  obtain ⟨c, last, notBlank, notNumeral⟩ := worded rfl
  rw [text_metricOrderError, List.getLast?_append_of_ne_nil _ (List.cons_ne_nil _ _)] at last
  rcases List.mem_cons.1 (List.mem_of_getLast? last) with rfl | mem
  · exact notBlank rfl
  · rw [m.maxDifficulty.isTextChar_chars c mem] at notNumeral
    contradiction

theorem metricOrderError_notMem {name : String} {m : Metric} {messages : List Message}
    (worded : Each Worded messages) :
  metricOrderError name m ∉ messages
  := fun mem => not_worded_metricOrderError name m (worded _ mem)

/-- An error ends as its last part does. -/
theorem worded_curriculumError (text : String) {ending : String} (c : Char)
    (last : ending.toList.getLast? = some c) (word : c ≠ ' ' ∧ Number.isTextChar c = false) :
  Worded (curriculumError (text ++ ending))
  := by
  intro _
  refine ⟨c, ?_, word⟩
  rw [text_curriculumError, String.toList_append, List.getLast?_append, last]
  rfl

theorem worded_knownMessages (text : String) (known : Bool) :
  Each Worded (knownMessages text known)
  := by
  simp [knownMessages, Worded]

theorem worded_pathMessages (check : PathCheck) (label path : String) :
  Each Worded (pathMessages check label path)
  := by
  have error : Worded (curriculumError (label ++ " is empty")) :=
    worded_curriculumError label 'y' (by decide) (by decide)
  have warning (text : String) : Worded (curriculumWarning text) := nofun
  cases check with
  | none => simp [pathMessages, error]
  | some present => simp [pathMessages, error, warning]

theorem worded_positiveMessages (name field : String) (value : Number) :
  Each Worded (positiveMessages name field value)
  := by
  have error (text : String) : Worded (curriculumError (text ++ ")")) :=
    worded_curriculumError text ')' (by decide) (by decide)
  simp [positiveMessages, error]

/-- Among the messages on a metric there is the error on its bounds exactly if they are not in
order. -/
theorem mem_metricMessages_iff {check : PathCheck} {name other : String} {m n : Metric} :
  metricOrderError name m ∈ metricMessages check other n
    ↔ n.maxDifficulty.toBinary < n.minDifficulty.toBinary
      ∧ metricOrderError name m = metricOrderError other n
  := by
  have ordered : metricOrderError name m
        ∈ (if n.maxDifficulty.toBinary < n.minDifficulty.toBinary then [metricOrderError other n]
          else [])
      ↔ n.maxDifficulty.toBinary < n.minDifficulty.toBinary
        ∧ metricOrderError name m = metricOrderError other n := by simp
  rw [← ordered]
  simp only [metricMessages, List.mem_append, metricOrderError_notMem (worded_knownMessages _ _),
    metricOrderError_notMem (worded_pathMessages _ _ _),
    metricOrderError_notMem (worded_positiveMessages _ _ _), false_or, or_false]
  rfl

/-- Among the messages on an enabled curriculum there is the error on the bounds of a metric exactly
if these are not in order.  The errors on other metrics have other names. -/
theorem mem_enabledCurriculumMessages_iff {check : PathCheck} {curriculum : CurriculumLearning}
    {name : String} {m : Metric} (named : curriculum.metrics.get? name = some m) :
  metricOrderError name m ∈ enabledCurriculumMessages check curriculum
    ↔ m.maxDifficulty.toBinary < m.minDifficulty.toBinary
  := by
  have entry : (name, m) ∈ curriculum.metrics.entries :=
    curriculum.metrics.sorted.lookup_eq_some_iff.1 named
  have nonempty : curriculum.metrics.isEmpty = false := by
    simp [Dictionary.isEmpty, List.ne_nil_of_mem entry]
  simp only [enabledCurriculumMessages, List.mem_append,
    metricOrderError_notMem (worded_pathMessages _ _ _), false_or, nonempty, Bool.false_eq_true,
    if_false, List.mem_flatMap]
  constructor
  · rintro ⟨⟨other, n⟩, mem, reported⟩
    obtain ⟨exceeds, same⟩ := mem_metricMessages_iff.1 reported
    obtain rfl := eq_of_metricOrderError_eq same
    have found := curriculum.metrics.sorted.lookup_eq_some_iff.2 mem
    obtain rfl := Option.some.inj (named.symm.trans found)
    exact exceeds
  · intro exceeds
    exact ⟨(name, m), entry, mem_metricMessages_iff.2 ⟨exceeds, rfl⟩⟩

variable {check : PathCheck} {c : Config}

/-- A report has the error on the bounds of a metric exactly if the curriculum is enabled and they
are not in order. -/
theorem metricOrderError_mem_validate_iff {name : String} {m : Metric}
    (named : c.dataEfficiency.dataSampling.curriculumLearning.metrics.get? name = some m) :
  metricOrderError name m ∈ (validate check c).messages
    ↔ c.dataEfficiency.dataSampling.curriculumLearning.enabled = true
      ∧ m.maxDifficulty.toBinary < m.minDifficulty.toBinary
  := by
  have part : ("curriculum", curriculumMessages check c) ∈ sections check c := by simp [sections]
  have warned (text : String) : metricOrderError name m ≠ curriculumWarning text := by
    simp [metricOrderError, curriculumError, curriculumWarning]
  have remarked (text : String) : metricOrderError name m ≠ ⟨text, .info, "curriculum"⟩ := by
    simp [metricOrderError, curriculumError]
  rw [mem_validate_iff part rfl]
  cases on : c.dataEfficiency.dataSampling.curriculumLearning.enabled with
  | false => simp [curriculumMessages, on, warned, remarked]
  | true => simp [curriculumMessages, on, warned, mem_enabledCurriculumMessages_iff named]

/-! ### Bounds that are integers -/

/-- What a report says on the order of bounds that are integers.  It has the error exactly if they
are not in order and not rounded to the same number.  So the error is exact unless both are large
and close to each other, and if the report passes, they are in order or large and close to each
other. -/
def OrderDecided (r : Report) (error : Message) (low high : Number) : Prop :=
  ∀ a b, low.toInt? = some a → high.toInt? = some b →
    (error ∈ r.messages ↔ b < a ∧ high.toBinary ≠ low.toBinary) ∧
    (¬Number.Near b a → (error ∈ r.messages ↔ b < a)) ∧
    (r.passed = true → a ≤ b ∨ Number.Near b a)

theorem orderDecided {r : Report} {error : Message} {low high : Number}
    (grave : error.severity = .error)
    (verdict : r.passed = true → ∀ m ∈ r.messages, m.severity ≠ .error)
    (compared : error ∈ r.messages ↔ high.toBinary < low.toBinary) :
  OrderDecided r error low high
  := by
  intro a b isLow isHigh
  obtain ⟨fits, rfl⟩ := Number.exists_of_toInt? isLow
  obtain ⟨fits', rfl⟩ := Number.exists_of_toInt? isHigh
  rw [Number.toBinary_lt_iff_ne] at compared
  have exact (far : ¬Number.Near b a) : error ∈ r.messages ↔ b < a := by
    rw [compared, and_iff_left_iff_imp]
    intro less same
    exact far (Number.near_of_toBinary_eq less same)
  refine ⟨compared, exact, ?_⟩
  intro passes
  by_contra neither
  obtain ⟨notLe, far⟩ := not_or.1 neither
  exact verdict passes error ((exact far).2 (Int.not_le.1 notLe)) grave

/-- **Order of bounds.**  Where token dropping is enabled, the report decides on the order of its
bounds, and where curriculum learning is, on that of the bounds of each metric: exactly, if the
bounds are integers of which one is less than `2 ^ 53` in magnitude, or if they are far apart. -/
theorem schedule_order_decided (check : PathCheck) (c : Config) :
  (c.dataEfficiency.dataRouting.randomLtd.enabled = true →
    OrderDecided (validate check c)
      (RoutingFault.order.error c.dataEfficiency.dataRouting.randomLtd)
      c.dataEfficiency.dataRouting.randomLtd.schedule.minValue
      c.dataEfficiency.dataRouting.randomLtd.schedule.maxValue) ∧
  (c.dataEfficiency.dataSampling.curriculumLearning.enabled = true →
    ∀ name m, c.dataEfficiency.dataSampling.curriculumLearning.metrics.get? name = some m →
      OrderDecided (validate check c) (metricOrderError name m) m.minDifficulty m.maxDifficulty)
  := by
  have verdict : (validate check c).passed = true →
      ∀ m ∈ (validate check c).messages, m.severity ≠ .error := by
    intro passes
    rw [validate, Report.passed_ofMessages_iff] at passes
    rw [validate, Report.messages_ofMessages]
    exact passes
  constructor
  · intro on
    apply orderDecided rfl verdict
    exact reported_iff.trans (and_iff_right on)
  · intro on name m named
    apply orderDecided rfl verdict
    exact (metricOrderError_mem_validate_iff named).trans (and_iff_right on)

/-- The configuration with other bounds on the number of kept tokens. -/
def withBounds (c : Config) (low high : Number) : Config :=
  withRouting c { c.dataEfficiency.dataRouting with
    randomLtd := { c.dataEfficiency.dataRouting.randomLtd with
      schedule := { c.dataEfficiency.dataRouting.randomLtd.schedule with
        minValue := low, maxValue := high } } }

/-- The order is missed where integers are large and close to each other: with bounds of which the
lower one exceeds the upper one by one, a configuration that passes still passes. -/
theorem passed_withBounds (passes : (validate check c).passed = true) :
  (validate check (withBounds c (.integer (2 ^ 53 + 1) (by decide))
    (.integer (2 ^ 53) (by decide)))).passed = true
  := by
  rw [validate, Report.passed_ofMessages_iff, faultless_validationMessages] at passes ⊢
  have ordered : (Number.integer (2 ^ 53 + 1) (by decide)).toBinary
      ≤ (Number.integer (2 ^ 53) (by decide)).toBinary := by decide +kernel
  have nonneg : zero ≤ (Number.integer (2 ^ 53 + 1) (by decide)).toBinary := by decide +kernel
  exact {
    batch := (batchRule_iff _).2 ((batchRule_iff c).1 passes.batch)
    logging := passes.logging
    stage := passes.stage
    scaling := passes.scaling
    layers := (layerRule_iff _).2
      ((layerRule_iff c.dataEfficiency.dataRouting.randomLtd).1 passes.layers)
    tokenSchedule := fun on => ⟨ordered, nonneg, (passes.tokenSchedule on).steps_pos⟩
    curriculum := passes.curriculum }

end ConfigTemplate.Validation
