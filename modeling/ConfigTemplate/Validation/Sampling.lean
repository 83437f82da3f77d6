import ConfigTemplate.Scalar
import ConfigTemplate.Training.Vocabulary
import ConfigTemplate.Validation.Training

/-!
# Rules of curriculum learning

The paths have to be given, and may be looked up; every metric needs bounds in order and a
positive ramp; words that are not known are worth a warning.
-/

namespace ConfigTemplate.Validation

open Training (Config CurriculumLearning Metric)

/-- How to find out whether a path leads anywhere, if that is to be found out at all. -/
abbrev PathCheck := Option (String → Bool)

/-- An error on curriculum learning. -/
def curriculumError (text : String) : Message := ⟨text, .error, "curriculum"⟩

/-- A warning on curriculum learning. -/
def curriculumWarning (text : String) : Message := ⟨text, .warning, "curriculum"⟩

/-- The message on a path. -/
def pathMessages (check : PathCheck) (label path : String) : List Message :=
  if Text.isBlankText path then [curriculumError (label ++ " is empty")]
  else
    match check with
    | none => []
    | some present =>
      if present path then [] else [curriculumWarning (label ++ " does not exist: " ++ path)]

/-- The message on a number that has to be positive. -/
def positiveMessages (name field : String) (value : Number) : List Message :=
  if value.toBinary ≤ zero then
    [curriculumError (name ++ ": " ++ field ++ " must be positive (got " ++ value.text ++ ")")]
  else []

/-- The message on a word that should be a known one. -/
def knownMessages (text : String) (known : Bool) : List Message :=
  if known then [] else [curriculumWarning text]

/-- The messages on a metric. -/
def metricMessages (check : PathCheck) (name : String) (m : Metric) : List Message :=
  knownMessages ("Unknown curriculum metric: " ++ name) (Training.knownMetricNames.contains name)
  ++ knownMessages (name ++ ": unknown difficulty_type " ++ m.difficultyType)
    (Training.knownDifficultyTypes.contains m.difficultyType)
  ++ knownMessages (name ++ ": unknown clustering_type " ++ m.clusteringType)
    (Training.knownClusteringTypes.contains m.clusteringType)
  ++ knownMessages (name ++ ": unknown schedule_type " ++ m.scheduleType)
    (m.scheduleType == Training.rootSchedule)
  ++ pathMessages check (name ++ ".index_to_sample_path") m.indexToSamplePath
  ++ pathMessages check (name ++ ".index_to_metric_path") m.indexToMetricPath
  ++ (if m.maxDifficulty.toBinary < m.minDifficulty.toBinary then
    [curriculumError (name ++ ": min_difficulty " ++ m.minDifficulty.text
      ++ " exceeds max_difficulty " ++ m.maxDifficulty.text)] else [])
  ++ positiveMessages name "total_curriculum_step" m.scheduleConfig.totalCurriculumStep
  ++ positiveMessages name "difficulty_step" m.scheduleConfig.difficultyStep
  ++ positiveMessages name "root_degree" m.scheduleConfig.rootDegree

/-- The messages on the paths and metrics of an enabled curriculum. -/
def enabledCurriculumMessages (check : PathCheck) (curriculum : CurriculumLearning) :
    List Message :=
  pathMessages check "data_cluster_path" curriculum.dataClusterPath
  ++ (if curriculum.metrics.isEmpty then
    [curriculumError "Curriculum learning enabled without any metric"]
    else curriculum.metrics.entries.flatMap fun (name, m) => metricMessages check name m)

/-- The messages on curriculum learning. -/
def curriculumMessages (check : PathCheck) (c : Config) : List Message :=
  let sampling := c.dataEfficiency.dataSampling
  let curriculum := sampling.curriculumLearning
  (if sampling.enabled != curriculum.enabled then
    [curriculumWarning ("data_sampling.enabled (" ++ Scalar.booleanText sampling.enabled
      ++ ") differs from curriculum_learning.enabled ("
      ++ Scalar.booleanText curriculum.enabled ++ ")")] else [])
  ++ (if curriculum.enabled then enabledCurriculumMessages check curriculum
    else [⟨"Curriculum learning disabled", .info, "curriculum"⟩])

end ConfigTemplate.Validation
