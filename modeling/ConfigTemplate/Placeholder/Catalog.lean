import ConfigTemplate.Domain
import ConfigTemplate.Training.Vocabulary

/-!
# The placeholder catalog

The documented placeholders, each with the domain of its values.  The coverage of a template
compares the placeholders found in it with the documented ones.
-/

namespace ConfigTemplate

/-- A documented placeholder. -/
structure CatalogEntry where
  name : String
  domain : Domain
  description : String
deriving DecidableEq

/-- The documented placeholders in the order of the built-in template. -/
def catalog : List CatalogEntry := [
  ⟨"GBSIZE", .positiveInteger, "global batch size across all workers"⟩,
  ⟨"MBSIZE", .positiveInteger, "per-device micro-batch size"⟩,
  ⟨"LOG_INTERVAL", .positiveInteger, "steps between progress prints"⟩,
  ⟨"ZERO_STAGE", .integerRange 0 3, "ZeRO memory-optimization stage"⟩,
  ⟨"PRESCALE_GRAD", .boolean, "scale gradients before reduction"⟩,
  ⟨"DATA_EFFICIENCY_SEED", .integer, "seed for data-efficiency sampling"⟩,
  ⟨"LTD_ENABLED", .boolean, "enable random layer-token dropping"⟩,
  ⟨"LTD_MIN", .number, "random-LTD schedule start value"⟩,
  ⟨"LTD_MAX", .number, "random-LTD schedule end value"⟩,
  ⟨"LTD_STEP", .number, "steps for the random-LTD linear ramp"⟩,
  ⟨"CL_ENABLED", .boolean, "enable curriculum learning"⟩,
  ⟨"DATA_SAMPLING_NUM_WORKERS", .nonNegativeInteger, "data sampler worker count"⟩,
  ⟨"CL_CLUSTER_PATH", .path, "directory for curriculum data clusters"⟩,
  ⟨"CL_1st_METRIC_NAME", .enumeration Training.knownMetricNames,
    "name of the first curriculum metric"⟩,
  ⟨"CL_1st_SAMPLE_PATH", .path, "index-to-sample file of the first metric"⟩,
  ⟨"CL_1st_METRIC_PATH", .path, "index-to-metric file of the first metric"⟩,
  ⟨"CL_1st_DIFF_TYPE", .enumeration Training.knownDifficultyTypes,
    "difficulty type of the first metric"⟩,
  ⟨"CL_1st_CLUSTER_TYPE", .enumeration Training.knownClusteringTypes,
    "clustering type of the first metric"⟩,
  ⟨"CL_1st_MIN", .number, "minimum difficulty"⟩,
  ⟨"CL_1st_MAX", .number, "maximum difficulty"⟩,
  ⟨"CL_1st_TOTAL_STEP", .number, "steps to reach maximum difficulty"⟩,
  ⟨"CL_1st_DIFF_STEP", .number, "difficulty increment granularity"⟩,
  ⟨"CL_1st_ROOT", .number, "root degree of the difficulty ramp"⟩]

/-- The names of the documented placeholders. -/
def documentedNames : List String := catalog.map (·.name)

/-- The catalog entry of a name. -/
def documented? (name : String) : Option CatalogEntry :=
  catalog.find? (·.name == name)

/-- The difference between the placeholders found in a template and the documented ones. -/
structure Coverage where
  /-- Found but not documented, in increasing order. -/
  undocumented : List String
  /-- Documented but not found, in increasing order. -/
  missing : List String
deriving DecidableEq

namespace Coverage

/-- The names of a list, each once, in increasing order. -/
def sortedNames (names : List String) : List String :=
  (sortEntries (names.map fun name => (name, ()))).map Prod.fst

/-- Compares names with the catalog. -/
def ofNames (found : List String) : Coverage where
  undocumented := (sortedNames found).filter (!documentedNames.contains ·)
  missing := (sortedNames documentedNames).filter (!found.contains ·)

/-- There is no difference. -/
def isExact (c : Coverage) : Bool :=
  c.undocumented.isEmpty && c.missing.isEmpty

end Coverage

end ConfigTemplate
