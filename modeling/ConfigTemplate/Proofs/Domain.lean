import ConfigTemplate.Domain
import Mathlib.Tactic.Common

/-!
# What the domains admit

A domain admits values of one kind only: truth values, numbers or texts.  Of the numbers a domain
of integers admits those of the integer kind, within its bounds.
-/

namespace ConfigTemplate

/-- A value that is an integer. -/
def Scalar.IsInteger (v : Scalar) (value : Int) : Prop :=
  ∃ fits, v = .number (.integer value fits)

instance (v : Scalar) : Decidable (∃ value, v.IsInteger value) :=
  match v with
  | .number (.integer value fits) => .isTrue ⟨value, fits, rfl⟩
  | .number (.float _) | .boolean _ | .text _ => .isFalse (by simp [Scalar.IsInteger])

/-- A truth value, an integer of at most 64 bits, or a text. -/
def Scalar.Whole : Scalar → Prop
  | .number (.float _) => False
  | _ => True

theorem Scalar.IsInteger.unique {v : Scalar} {value other : Int} (h : v.IsInteger value)
    (h' : v.IsInteger other) :
  value = other
  := by
  obtain ⟨_, rfl⟩ := h
  obtain ⟨_, same⟩ := h'
  injection same with same
  injection same

namespace Domain

open Scalar (IsInteger)

theorem check_eq_ok_iff {d : Domain} {name : String} {v : Scalar} :
  d.check name v = .ok () ↔ d.admits v = true
  := by
  unfold check
  split
  · next admitted => simp [admitted]
  · next refused => simp [refused]

/-! ### Values that come in -/

/-- A value that is checked comes through unchanged. -/
theorem map_check_eq_ok_iff {d : Domain} {name : String} {v w : Scalar} :
  (d.check name v).map (fun _ => v) = .ok w ↔ d.check name v = .ok () ∧ v = w
  := by
  cases d.check name v with
  | error e => simp [Except.map]
  | ok _ => simp [Except.map]

theorem check_of_parse {d : Domain} {name raw : String} {v : Scalar}
    (h : d.parse name raw = .ok v) :
  d.check name v = .ok ()
  := by
  unfold parse at h
  cases read : d.read? raw with
  | none => simp [read] at h
  | some w =>
    rw [read] at h
    obtain ⟨checked, rfl⟩ := map_check_eq_ok_iff.1 h
    exact checked

theorem check_of_accept {d : Domain} {name : String} {value : Json.Value} {v : Scalar}
    (h : d.accept name value = .ok v) :
  d.check name v = .ok ()
  := by
  cases value with
  | string raw => exact check_of_parse h
  | boolean b =>
    obtain ⟨checked, rfl⟩ := map_check_eq_ok_iff.1 h
    exact checked
  | number n =>
    obtain ⟨checked, rfl⟩ := map_check_eq_ok_iff.1 h
    exact checked
  | null | array | object => simp [accept] at h

/-! ### Domains of one kind -/

theorem admits_boolean_iff {v : Scalar} :
  boolean.admits v = true ↔ ∃ b, v = .boolean b
  := by
  cases v with
  | boolean b => exact ⟨fun _ => ⟨b, rfl⟩, fun _ => rfl⟩
  | number | text => exact ⟨nofun, fun ⟨_, same⟩ => nomatch same⟩

theorem admits_number_iff {v : Scalar} :
  number.admits v = true ↔ ∃ n, v = .number n
  := by
  cases v with
  | number n => exact ⟨fun _ => ⟨n, rfl⟩, fun _ => rfl⟩
  | boolean | text => exact ⟨nofun, fun ⟨_, same⟩ => nomatch same⟩

theorem admits_path_iff {v : Scalar} :
  path.admits v = true ↔ ∃ s, v = .text s ∧ Text.isBlankText s = false
  := by
  cases v with
  | text s =>
    change (!Text.isBlankText s) = true ↔ _
    simp
  | boolean | number => exact ⟨nofun, fun ⟨_, same, _⟩ => nomatch same⟩

/-! ### Domains of integers -/

/-- What is admitted by a condition on the integer of a number is an integer with it. -/
theorem admits_integer_kind {P : Int → Prop} {d : Domain} {v : Scalar}
    (kind : (∀ b, d.admits (.boolean b) = false) ∧ (∀ s, d.admits (.text s) = false)
      ∧ (∀ x, d.admits (.number (.float x)) = false))
    (integer : ∀ value fits, d.admits (.number (.integer value fits)) = true ↔ P value) :
  d.admits v = true ↔ ∃ value, IsInteger v value ∧ P value
  := by
  obtain ⟨noBoolean, noText, noFloat⟩ := kind
  match v with
  | .boolean b => simp [noBoolean, IsInteger]
  | .text s => simp [noText, IsInteger]
  | .number (.float x) => simp [noFloat, IsInteger]
  | .number (.integer value fits) => simp [integer, IsInteger, fits]

theorem admits_positiveInteger_iff {v : Scalar} :
  positiveInteger.admits v = true ↔ ∃ value, IsInteger v value ∧ 0 < value
  := by
  apply admits_integer_kind ⟨fun _ => rfl, fun _ => rfl, fun _ => rfl⟩
  intro value fits
  change (Number.toUnsigned? (.integer value fits)).any (0 < ·) = true ↔ _
  by_cases sign : 0 ≤ value
  · simp [Number.toUnsigned?, Number.toInt?, sign]
  · simp [Number.toUnsigned?, Number.toInt?, sign, Int.le_of_not_le sign]

theorem admits_nonNegativeInteger_iff {v : Scalar} :
  nonNegativeInteger.admits v = true ↔ ∃ value, IsInteger v value ∧ 0 ≤ value
  := by
  apply admits_integer_kind ⟨fun _ => rfl, fun _ => rfl, fun _ => rfl⟩
  intro value fits
  change (Number.toUnsigned? (.integer value fits)).isSome = true ↔ _
  by_cases sign : 0 ≤ value
  · simp [Number.toUnsigned?, Number.toInt?, sign]
  · simp [Number.toUnsigned?, Number.toInt?, sign]

theorem admits_integer_iff {v : Scalar} :
  integer.admits v = true ↔ ∃ value, IsInteger v value ∧ value < 0x8000000000000000
  := by
  apply admits_integer_kind ⟨fun _ => rfl, fun _ => rfl, fun _ => rfl⟩
  intro value fits
  change (Number.toSigned? (.integer value fits)).isSome = true ↔ _
  by_cases small : value < 0x8000000000000000
  · simp [Number.toSigned?, Number.toInt?, small]
  · simp [Number.toSigned?, Number.toInt?, small]

theorem admits_integerRange_iff {least greatest : Int} {v : Scalar} :
  (integerRange least greatest).admits v = true
    ↔ ∃ value, IsInteger v value
      ∧ value < 0x8000000000000000 ∧ least ≤ value ∧ value ≤ greatest
  := by
  apply admits_integer_kind ⟨fun _ => rfl, fun _ => rfl, fun _ => rfl⟩
  intro value fits
  change (Number.toSigned? (.integer value fits)).any
    (fun value => least ≤ value && value ≤ greatest) = true ↔ _
  by_cases small : value < 0x8000000000000000
  · simp [Number.toSigned?, Number.toInt?, small]
  · simp [Number.toSigned?, Number.toInt?, small]

end Domain

end ConfigTemplate
