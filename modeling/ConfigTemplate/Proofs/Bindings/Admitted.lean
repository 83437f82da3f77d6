import ConfigTemplate.Bindings.Basic
import ConfigTemplate.Proofs.Dictionary
import ConfigTemplate.Proofs.Domain
import Mathlib.Tactic.MkIffOfInductiveProp

/-!
# Admitted values

The bindings that the catalog admits for the built-in template have a value for each documented
placeholder and for no other name, and each value passes the check of its domain.
-/

namespace ConfigTemplate

/-- A documented placeholder has the domain. -/
def HasDomain (name : String) (d : Domain) : Prop :=
  ∃ entry ∈ catalog, entry.name = name ∧ entry.domain = d

instance (name : String) (d : Domain) : Decidable (HasDomain name d) :=
  inferInstanceAs (Decidable (∃ entry ∈ catalog, entry.name = name ∧ entry.domain = d))

namespace Bindings

/-- Values for exactly the documented placeholders, each of which passes the check of its domain,
and integers where any number would do. -/
structure Admitted (b : Bindings) : Prop where
  names : ∀ name, b.contains name = true ↔ name ∈ documentedNames
  inDomain : ∀ entry ∈ catalog, ∀ v, b.get? entry.name = some v →
    entry.domain.check entry.name v = .ok ()
  whole : ∀ entry ∈ catalog, entry.domain = .number → ∀ v, b.get? entry.name = some v →
    ∃ value, v.IsInteger value

/-- The integer of a name is not above a bound. -/
def AtMost (b : Bindings) (name : String) (bound : Int) : Prop :=
  ∀ v value, b.get? name = some v → v.IsInteger value → value ≤ bound

/-- The integers fit into the fields of the typed configuration. -/
@[mk_iff]
structure WithinWidths (b : Bindings) : Prop where
  globalBatch : b.AtMost "GBSIZE" 0x7fffffffffffffff
  microBatch : b.AtMost "MBSIZE" 0x7fffffffffffffff
  logInterval : b.AtMost "LOG_INTERVAL" 0x7fffffffffffffff
  workers : b.AtMost "DATA_SAMPLING_NUM_WORKERS" 0xffffffff

variable {b : Bindings}

theorem atMost_iff {name : String} {v : Scalar} {value bound : Int}
    (found : b.get? name = some v) (integer : v.IsInteger value) :
  b.AtMost name bound ↔ value ≤ bound
  := by
  constructor
  · intro small
    exact small v value found integer
  · intro small v' value' found' integer'
    obtain rfl := Option.some.inj (found.symm.trans found')
    rwa [integer'.unique integer]

namespace Admitted

/-- A documented placeholder has a value of its domain. -/
theorem exists_value (admitted : b.Admitted) {name : String} {d : Domain}
    (documented : HasDomain name d) :
  ∃ v, b.get? name = some v ∧ d.admits v = true
  := by
  obtain ⟨entry, mem, rfl, rfl⟩ := documented
  have bound : b.contains entry.name = true := by
    rw [admitted.names]
    exact List.mem_map_of_mem mem
  obtain ⟨v, bound⟩ := Option.isSome_iff_exists.1 bound
  exact ⟨v, bound, Domain.check_eq_ok_iff.1 (admitted.inDomain entry mem v bound)⟩

end Admitted

end Bindings

/-- Values for the built-in template, with a free number of workers. -/
def pretrainingValues (workers : Fin 0x10000000000000000) : Bindings where
  values := .ofList [
    ("GBSIZE", count 256), ("MBSIZE", count 4), ("LOG_INTERVAL", count 10),
    ("ZERO_STAGE", count 1), ("PRESCALE_GRAD", .boolean false),
    ("DATA_EFFICIENCY_SEED", count 1234), ("LTD_ENABLED", .boolean true),
    ("LTD_MIN", count 128), ("LTD_MAX", count 2048), ("LTD_STEP", count 200000),
    ("CL_ENABLED", .boolean true), ("DATA_SAMPLING_NUM_WORKERS", count workers),
    ("CL_CLUSTER_PATH", .text "/data/clusters"), ("CL_1st_METRIC_NAME", .text "seqlen"),
    ("CL_1st_SAMPLE_PATH", .text "/data/samples"), ("CL_1st_METRIC_PATH", .text "/data/metrics"),
    ("CL_1st_DIFF_TYPE", .text "value"), ("CL_1st_CLUSTER_TYPE", .text "single_cluster"),
    ("CL_1st_MIN", count 80), ("CL_1st_MAX", count 2048), ("CL_1st_TOTAL_STEP", count 110000),
    ("CL_1st_DIFF_STEP", count 8), ("CL_1st_ROOT", count 1)]
where
  /-- An unsigned integer as a value. -/
  count (n : Fin 0x10000000000000000) : Scalar := .number (.integer n (by omega))

theorem admitted_pretrainingValues {workers : Fin 0x10000000000000000}
    (h : workers = 0xffffffff ∨ workers = 0x100000000) :
  (pretrainingValues workers).Admitted
  := by
  constructor
  · have named : (pretrainingValues workers).names ⊆ documentedNames
        ∧ documentedNames ⊆ (pretrainingValues workers).names := by
      rcases h with rfl | rfl <;> decide +kernel
    intro name
    rw [Bindings.contains, Dictionary.contains_iff]
    constructor
    · intro mem
      exact named.1 mem
    · intro mem
      exact named.2 mem
  · have inDomain : ∀ entry ∈ catalog, ∀ v ∈ (pretrainingValues workers).get? entry.name,
        entry.domain.admits v = true := by
      rcases h with rfl | rfl <;> decide +kernel
    intro entry mem v bound
    exact Domain.check_eq_ok_iff.2 (inDomain entry mem v bound)
  · have whole : ∀ entry ∈ catalog, entry.domain = .number →
        ∀ v ∈ (pretrainingValues workers).get? entry.name, ∃ value, v.IsInteger value := by
      rcases h with rfl | rfl <;> decide +kernel
    intro entry mem number v bound
    exact whole entry mem number v bound

theorem withinWidths_pretrainingValues (workers : Fin 0x10000000000000000) :
  (pretrainingValues workers).WithinWidths ↔ (workers : Int) ≤ 0xffffffff
  := by
  have found :
      (pretrainingValues workers).get? "GBSIZE" = some (pretrainingValues.count 256)
        ∧ (pretrainingValues workers).get? "MBSIZE" = some (pretrainingValues.count 4)
        ∧ (pretrainingValues workers).get? "LOG_INTERVAL" = some (pretrainingValues.count 10)
        ∧ (pretrainingValues workers).get? "DATA_SAMPLING_NUM_WORKERS"
          = some (pretrainingValues.count workers) := by
    simp [Bindings.get?, pretrainingValues, Dictionary.get?_ofList, lookup_cons_eq]
  obtain ⟨globalBatch, microBatch, logInterval, bound⟩ := found
  rw [Bindings.withinWidths_iff, Bindings.atMost_iff globalBatch ⟨_, rfl⟩,
    Bindings.atMost_iff microBatch ⟨_, rfl⟩, Bindings.atMost_iff logInterval ⟨_, rfl⟩,
    Bindings.atMost_iff bound ⟨_, rfl⟩]
  constructor
  · rintro ⟨-, -, -, few⟩
    exact few
  · intro few
    exact ⟨by decide, by decide, by decide, few⟩

end ConfigTemplate
