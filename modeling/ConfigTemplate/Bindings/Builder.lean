import ConfigTemplate.Bindings.Basic

/-!
# Building bindings

A setting names the documented placeholders that belong together and carries typed values for
them.  Bindings are built from a list of settings; the first value outside its domain is reported.
-/

namespace ConfigTemplate

/-- Values for one or more documented placeholders. -/
inductive Setting where
  | globalBatchSize (size : Number)
  | microBatchSize (size : Number)
  | logInterval (steps : Number)
  | zeroStage (stage : Number)
  | prescaleGradients (enabled : Bool)
  | dataEfficiencySeed (seed : Number)
  | ltdEnabled (enabled : Bool)
  | ltdRange (least greatest : Number)
  | ltdSteps (steps : Number)
  | clEnabled (enabled : Bool)
  | dataSamplingWorkers (workers : Number)
  | clusterPath (path : String)
  | metricName (name : String)
  | metricIndexPaths (samplePath metricPath : String)
  | difficultyType (kind : String)
  | clusteringType (kind : String)
  | difficultyRange (least greatest : Number)
  | rootSchedule (totalStep difficultyStep rootDegree : Number)
deriving DecidableEq

namespace Setting

/-- The placeholders that a setting binds, with their values. -/
def entries : Setting → List (String × Scalar)
  | .globalBatchSize size => [("GBSIZE", .number size)]
  | .microBatchSize size => [("MBSIZE", .number size)]
  | .logInterval steps => [("LOG_INTERVAL", .number steps)]
  | .zeroStage stage => [("ZERO_STAGE", .number stage)]
  | .prescaleGradients enabled => [("PRESCALE_GRAD", .boolean enabled)]
  | .dataEfficiencySeed seed => [("DATA_EFFICIENCY_SEED", .number seed)]
  | .ltdEnabled enabled => [("LTD_ENABLED", .boolean enabled)]
  | .ltdRange least greatest => [("LTD_MIN", .number least), ("LTD_MAX", .number greatest)]
  | .ltdSteps steps => [("LTD_STEP", .number steps)]
  | .clEnabled enabled => [("CL_ENABLED", .boolean enabled)]
  | .dataSamplingWorkers workers => [("DATA_SAMPLING_NUM_WORKERS", .number workers)]
  | .clusterPath path => [("CL_CLUSTER_PATH", .text path)]
  | .metricName name => [("CL_1st_METRIC_NAME", .text name)]
  | .metricIndexPaths samplePath metricPath =>
    [("CL_1st_SAMPLE_PATH", .text samplePath), ("CL_1st_METRIC_PATH", .text metricPath)]
  | .difficultyType kind => [("CL_1st_DIFF_TYPE", .text kind)]
  | .clusteringType kind => [("CL_1st_CLUSTER_TYPE", .text kind)]
  | .difficultyRange least greatest =>
    [("CL_1st_MIN", .number least), ("CL_1st_MAX", .number greatest)]
  | .rootSchedule totalStep difficultyStep rootDegree =>
    [("CL_1st_TOTAL_STEP", .number totalStep), ("CL_1st_DIFF_STEP", .number difficultyStep),
      ("CL_1st_ROOT", .number rootDegree)]

end Setting

namespace Bindings

/-- Adds typed values one after the other. -/
def addEntries (b : Bindings) : List (String × Scalar) → Except Error Bindings
  | [] => .ok b
  | (name, v) :: rest => do
    let b ← b.set name v
    b.addEntries rest

/-- The bindings of a list of settings. -/
def build (settings : List Setting) : Except Error Bindings :=
  empty.addEntries (settings.flatMap Setting.entries)

end Bindings

end ConfigTemplate
