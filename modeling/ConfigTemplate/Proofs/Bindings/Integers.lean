import ConfigTemplate.Proofs.Bindings.Admitted
import ConfigTemplate.Proofs.Number.Exact
import ConfigTemplate.Validation.Training

/-!
# Integers among the bindings

Of admitted bindings the numbers are integers.  Where these are small enough to be exact as floating
point numbers, validation compares the integers themselves.
-/

namespace ConfigTemplate

namespace Bindings

/-- The integer of a name, or 0 if it has none. -/
def integer (b : Bindings) (name : String) : Int :=
  match b.get? name with
  | some (.number (.integer value _)) => value
  | _ => 0

/-- The truth value of a name, or false if it has none. -/
def flag (b : Bindings) (name : String) : Bool :=
  b.get? name == some (.boolean true)

/-- The integers that stand where any number would do are exact as floating point numbers. -/
def Exact (b : Bindings) : Prop :=
  ∀ entry ∈ catalog, entry.domain = .number → (b.integer entry.name).natAbs ≤ 2 ^ 53

variable {b : Bindings} {name name' : String}

theorem integer_eq {v : Scalar} {value : Int} (found : b.get? name = some v)
    (isInteger : v.IsInteger value) :
  b.integer name = value
  := by
  obtain ⟨fits, rfl⟩ := isInteger
  rw [integer, found]

theorem flag_eq {t : Bool} (found : b.get? name = some (.boolean t)) :
  b.flag name = t
  := by
  rw [flag, found]
  cases t <;> rfl

theorem Admitted.integer_pos (admitted : b.Admitted)
    (documented : HasDomain name .positiveInteger) :
  0 < b.integer name
  := by
  obtain ⟨v, found, inDomain⟩ := admitted.exists_value documented
  obtain ⟨value, isInteger, positive⟩ := Domain.admits_positiveInteger_iff.1 inDomain
  rw [integer_eq found isInteger]
  exact positive

theorem Admitted.integer_le {least greatest : Int} (admitted : b.Admitted)
    (documented : HasDomain name (.integerRange least greatest)) :
  b.integer name ≤ greatest
  := by
  obtain ⟨v, found, inDomain⟩ := admitted.exists_value documented
  obtain ⟨value, isInteger, -, -, bounded⟩ := Domain.admits_integerRange_iff.1 inDomain
  rw [integer_eq found isInteger]
  exact bounded

/-! ### Floating point values -/

section

variable (admitted : b.Admitted) (exact : b.Exact) {n n' : Number}

include admitted exact

/-- A number of the bindings is the integer of its name. -/
theorem Exact.exists_integer (documented : HasDomain name .number)
    (found : b.get? name = some (.number n)) :
  ∃ value fits, n = .integer value fits ∧ b.integer name = value ∧ value.natAbs ≤ 2 ^ 53
  := by
  obtain ⟨entry, isEntry, rfl, anyNumber⟩ := documented
  obtain ⟨value, isInteger⟩ := admitted.whole entry isEntry anyNumber _ found
  have same := integer_eq found isInteger
  have small := exact entry isEntry anyNumber
  rw [same] at small
  obtain ⟨fits, isNumber⟩ := isInteger
  exact ⟨value, fits, Scalar.number.inj isNumber, same, small⟩

theorem Exact.toBinary_le_iff (documented : HasDomain name .number)
    (documented' : HasDomain name' .number) (found : b.get? name = some (.number n))
    (found' : b.get? name' = some (.number n')) :
  n.toBinary ≤ n'.toBinary ↔ b.integer name ≤ b.integer name'
  := by
  obtain ⟨value, fits, rfl, same, small⟩ := exact.exists_integer admitted documented found
  obtain ⟨value', fits', rfl, same', small'⟩ := exact.exists_integer admitted documented' found'
  rw [same, same']
  exact Number.toBinary_le_iff small small'

theorem Exact.zero_le_toBinary_iff (documented : HasDomain name .number)
    (found : b.get? name = some (.number n)) :
  Validation.zero ≤ n.toBinary ↔ 0 ≤ b.integer name
  := by
  obtain ⟨value, fits, rfl, same, small⟩ := exact.exists_integer admitted documented found
  rw [same, Validation.zero, ← Number.toBinary_zero]
  exact Number.toBinary_le_iff (by decide) small

theorem Exact.zero_lt_toBinary_iff (documented : HasDomain name .number)
    (found : b.get? name = some (.number n)) :
  Validation.zero < n.toBinary ↔ 0 < b.integer name
  := by
  obtain ⟨value, fits, rfl, same, small⟩ := exact.exists_integer admitted documented found
  rw [same, Validation.zero, ← Number.toBinary_zero]
  exact Number.toBinary_lt_iff (by decide) small

end

end Bindings

end ConfigTemplate
