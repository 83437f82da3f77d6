/-!
# Words of training configurations

The values of free-form fields that are in common use.
-/

namespace ConfigTemplate.Training

/-- The known ways to measure difficulty. -/
def knownDifficultyTypes : List String := ["value", "percentile"]

/-- The known ways to cluster samples. -/
def knownClusteringTypes : List String := ["single_cluster", "schedule_based"]

/-- The known curriculum metrics. -/
def knownMetricNames : List String :=
  ["seqlen", "seqlen_truncate", "seqlen_reshape", "voc", "vocabularyrarity",
    "seqlen_vocabularyrarity"]

/-- The schedule of the number of kept tokens. -/
def linearSchedule : String := "fixed_linear"

/-- The schedule of the difficulty. -/
def rootSchedule : String := "fixed_root"

end ConfigTemplate.Training
