import ConfigTemplate.Proofs.Validation.Rules

/-!
# Warnings on paths

The paths of a curriculum may be looked up or not.  Looking them up takes no message away and adds
nothing but warnings, one for each path that is given and leads nowhere, so the verdict does not
depend on it: `path_check_adds_warnings`.
-/

namespace ConfigTemplate

/-! ### Messages added to others -/

/-- The last list has the messages of the first two, those of each in their order. -/
inductive Interleaved : List Message → List Message → List Message → Prop where
  | nil : Interleaved [] [] []
  | add (m : Message) {added rest whole : List Message} (h : Interleaved added rest whole) :
    Interleaved (m :: added) rest (m :: whole)
  | keep (m : Message) {added rest whole : List Message} (h : Interleaved added rest whole) :
    Interleaved added (m :: rest) (m :: whole)

namespace Interleaved

variable {added rest whole added' rest' whole' : List Message}

theorem refl (messages : List Message) :
  Interleaved [] messages messages
  := by
  induction messages with
  | nil => exact .nil
  | cons m rest ih => exact .keep m ih

theorem append (h : Interleaved added rest whole) (h' : Interleaved added' rest' whole') :
  Interleaved (added ++ added') (rest ++ rest') (whole ++ whole')
  := by
  induction h with
  | nil => exact h'
  | add m _ ih => exact .add m ih
  | keep m _ ih => exact .keep m ih

/-- Where nothing is added in front, the messages in front are the same. -/
theorem append_left (front : List Message) (h : Interleaved added rest whole) :
  Interleaved added (front ++ rest) (front ++ whole)
  := (refl front).append h

theorem append_right (h : Interleaved added rest whole) (back : List Message) :
  Interleaved added (rest ++ back) (whole ++ back)
  := by
  have both := h.append (refl back)
  rwa [List.append_nil] at both

theorem flatMap {α : Type} {added rest whole : α → List Message} {list : List α}
    (h : ∀ x ∈ list, Interleaved (added x) (rest x) (whole x)) :
  Interleaved (list.flatMap added) (list.flatMap rest) (list.flatMap whole)
  := by
  induction list with
  | nil => exact .nil
  | cons x list ih =>
    obtain ⟨first, others⟩ := List.forall_mem_cons.1 h
    simp only [List.flatMap_cons]
    exact first.append (ih others)

/-- A filter that keeps none of the added messages gives what it gives without them. -/
theorem filter_eq {keeps : Message → Bool} (h : Interleaved added rest whole)
    (dropped : Each (keeps · = false) added) :
  whole.filter keeps = rest.filter keeps
  := by
  induction h with
  | nil => rfl
  | add m _ ih =>
    rw [each_cons] at dropped
    rw [List.filter_cons_of_neg (by simp [dropped.1]), ih dropped.2]
  | keep m _ ih => rw [List.filter_cons, List.filter_cons, ih dropped]

end Interleaved

namespace Validation

open Training

/-! ### Paths that lead nowhere -/

/-- The paths of a metric, each with what it is called in a message. -/
def metricPaths (name : String) (m : Metric) : List (String × String) := [
  (name ++ ".index_to_sample_path", m.indexToSamplePath),
  (name ++ ".index_to_metric_path", m.indexToMetricPath)]

/-- The paths of a curriculum: the one of its clusters and those of its metrics. -/
def curriculumPaths (c : CurriculumLearning) : List (String × String) :=
  ("data_cluster_path", c.dataClusterPath)
    :: c.metrics.entries.flatMap fun (name, m) => metricPaths name m

/-- The paths that validation looks at: those of the curriculum, if it is enabled. -/
def checkedPaths (c : Config) : List (String × String) :=
  if c.dataEfficiency.dataSampling.curriculumLearning.enabled then
    curriculumPaths c.dataEfficiency.dataSampling.curriculumLearning
  else []

/-- A warning for each of the paths that is not blank and does not exist. -/
def missingWarnings (present : String → Bool) (paths : List (String × String)) : List Message :=
  (paths.filter fun (_, path) => !Text.isBlankText path && !present path).map
    fun (label, path) => curriculumWarning (label ++ " does not exist: " ++ path)

variable (present : String → Bool)

theorem missingWarnings_append (paths others : List (String × String)) :
  missingWarnings present (paths ++ others)
    = missingWarnings present paths ++ missingWarnings present others
  := by simp [missingWarnings]

theorem missingWarnings_flatMap {α : Type} (list : List α) (paths : α → List (String × String)) :
  missingWarnings present (list.flatMap paths)
    = list.flatMap fun x => missingWarnings present (paths x)
  := by
  induction list with
  | nil => rfl
  | cons x list ih => simp only [List.flatMap_cons, missingWarnings_append, ih]

theorem severity_missingWarnings (paths : List (String × String)) :
  Each (·.severity = .warning) (missingWarnings present paths)
  := by
  intro m mem
  obtain ⟨_, -, rfl⟩ := List.mem_map.1 mem
  rfl

theorem interleaved_pathMessages (label path : String) :
  Interleaved (missingWarnings present [(label, path)]) (pathMessages none label path)
    (pathMessages (some present) label path)
  := by
  cases blank : Text.isBlankText path with
  | true =>
    simp only [missingWarnings, pathMessages, blank, List.filter_singleton]
    apply Interleaved.refl
  | false =>
    cases found : present path with
    | true =>
      simp only [missingWarnings, pathMessages, blank, found, List.filter_singleton]
      exact .nil
    | false =>
      simp only [missingWarnings, pathMessages, blank, found, List.filter_singleton]
      exact .add _ .nil

/-- In the messages on a metric the warnings stand between those on its words and those on its
numbers. -/
theorem interleaved_metricMessages (name : String) (m : Metric) :
  Interleaved (missingWarnings present (metricPaths name m)) (metricMessages none name m)
    (metricMessages (some present) name m)
  := by
  have paths := (interleaved_pathMessages present (name ++ ".index_to_sample_path")
    m.indexToSamplePath).append
      (interleaved_pathMessages present (name ++ ".index_to_metric_path") m.indexToMetricPath)
  rw [← missingWarnings_append] at paths
  -- the messages on the two paths are taken together, the others stay in front and behind
  simp only [metricMessages, List.append_assoc _ (pathMessages _ _ _) (pathMessages _ _ _)]
  apply Interleaved.append_right
  apply Interleaved.append_right
  apply Interleaved.append_right
  apply Interleaved.append_right
  exact paths.append_left _

theorem interleaved_enabledCurriculumMessages (c : CurriculumLearning) :
  Interleaved (missingWarnings present (curriculumPaths c)) (enabledCurriculumMessages none c)
    (enabledCurriculumMessages (some present) c)
  := by
  have clusters := interleaved_pathMessages present "data_cluster_path" c.dataClusterPath
  rw [curriculumPaths, ← List.singleton_append, missingWarnings_append, missingWarnings_flatMap]
  apply clusters.append
  unfold Dictionary.isEmpty
  cases c.metrics.entries with
  | nil => exact .refl _
  | cons entry entries =>
    apply Interleaved.flatMap
    rintro ⟨name, m⟩ -
    apply interleaved_metricMessages

theorem interleaved_curriculumMessages (c : Config) :
  Interleaved (missingWarnings present (checkedPaths c)) (curriculumMessages none c)
    (curriculumMessages (some present) c)
  := by
  apply Interleaved.append_left
  rw [checkedPaths]
  split
  · apply interleaved_enabledCurriculumMessages
  · exact .refl _

/-- **Looking paths up only adds warnings.**  The verdict, the errors and the notes of a report are
the same whether paths are looked up or not.  If they are, its messages are the others in their
order with a warning for each path of an enabled curriculum that is not blank and does not exist. -/
theorem path_check_adds_warnings (c : Config) :
  (validate (some present) c).passed = (validate none c).passed
    ∧ (validate (some present) c).errors = (validate none c).errors
    ∧ (validate (some present) c).infos = (validate none c).infos
    ∧ Interleaved (missingWarnings present (checkedPaths c)) (validate none c).messages
        (validate (some present) c).messages
  := by
  have added : Interleaved (missingWarnings present (checkedPaths c)) (validate none c).messages
      (validate (some present) c).messages := by
    simp only [validate, Report.messages_ofMessages]
    exact (interleaved_curriculumMessages present c).append_left _
  have same (severity : Severity) (other : severity ≠ .warning) :
      (validate (some present) c).withSeverity severity
        = (validate none c).withSeverity severity := by
    apply added.filter_eq
    intro m mem
    rw [severity_missingWarnings present _ m mem, beq_eq_false_iff_ne]
    exact other.symm
  have errors := same .error (by decide)
  refine ⟨?_, errors, same .info (by decide), added⟩
  calc
    (validate (some present) c).passed = (validate (some present) c).errors.isEmpty :=
      Report.passed_ofMessages _
    _ = (validate none c).errors.isEmpty := congrArg List.isEmpty errors
    _ = (validate none c).passed := (Report.passed_ofMessages _).symm

end Validation

end ConfigTemplate
