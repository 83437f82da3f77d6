import ConfigTemplate.Proofs.Domain
import ConfigTemplate.Proofs.Placeholder.Tokens
import ConfigTemplate.Proofs.Text.Blank
import Mathlib.Data.List.Induction
import Mathlib.Data.Nat.Digits.Defs

/-!
# Integers typed by hand

A domain of integers takes a free text exactly if the text is a numeral of an integer within the
bounds of the domain, blanks around it apart, and then the value is this integer.  Every other text
is refused with an error that names the placeholder: `Domain.parse_typed`.
-/

namespace ConfigTemplate

namespace Number

open Json.Numeral (IsDigits)

/-! ### Numerals of integers -/

/-- The number that decimal digits denote; the last one counts ones. -/
def decimalValue (digits : List Char) : Nat :=
  Nat.ofDigits 10 (digits.reverse.map fun c => c.toNat - '0'.toNat)

/-- The characters are decimal digits, at least one, perhaps with a sign in front, and denote the
integer. -/
inductive Denotes : List Char → Int → Prop where
  | unsigned {digits : List Char} (isDigits : IsDigits digits) :
    Denotes digits (decimalValue digits)
  | plus {digits : List Char} (isDigits : IsDigits digits) :
    Denotes ('+' :: digits) (decimalValue digits)
  | minus {digits : List Char} (isDigits : IsDigits digits) :
    Denotes ('-' :: digits) (-decimalValue digits)

theorem digitsValue_eq (digits : List Char) :
  digitsValue digits = decimalValue digits
  := by
  induction digits using List.reverseRecOn with
  | nil => rfl
  | append_singleton digits c ih =>
    rw [digitsValue, List.foldl_append, ← digitsValue, ih, decimalValue, decimalValue,
      List.reverse_append]
    simp only [List.foldl_cons, List.foldl_nil, List.reverse_singleton, List.singleton_append,
      List.map_cons, Nat.ofDigits_cons]
    apply Nat.add_comm

theorem decimalValue_toDigits (n : Nat) :
  decimalValue (Nat.toDigits 10 n) = n
  := by
  rw [← digitsValue_eq]
  exact Nat.ofDigitChars_ten_toDigits

/-- The decimal text of an integer is a numeral of it. -/
theorem denotes_integerChars (value : Int) :
  Denotes (integerChars value) value
  := by
  have isDigits := Json.Numeral.isDigits_toDigits value.natAbs
  unfold integerChars
  split
  · next negative =>
    have denotes := Denotes.minus isDigits
    rwa [decimalValue_toDigits, Int.ofNat_natAbs_of_nonpos (Int.le_of_lt negative),
      Int.neg_neg] at denotes
  · next notNegative =>
    have denotes := Denotes.unsigned isDigits
    rwa [decimalValue_toDigits, Int.natAbs_of_nonneg (Int.not_lt.1 notNegative)] at denotes

/-- Digits carry no sign. -/
theorem splitSign_of_isDigits {digits : List Char} (isDigits : IsDigits digits) :
  splitSign digits = (false, digits)
  := by
  obtain ⟨c, rest, rfl⟩ := List.exists_cons_of_ne_nil isDigits.1
  have digit : c.isDigit = true := isDigits.2 c List.mem_cons_self
  unfold splitSign
  split
  · next shape =>
    obtain ⟨rfl, -⟩ := List.cons.inj shape
    contradiction
  · next shape =>
    obtain ⟨rfl, -⟩ := List.cons.inj shape
    contradiction
  · rfl

/-- A text is read as an integer, of whatever size, if it denotes the integer. -/
theorem signedInteger?_eq_some_iff {cs : List Char} {value : Int} :
  signedInteger? cs = some value ↔ Denotes cs value
  := by
  have digitsOnly {digits : List Char} :
      (digits.isEmpty || !digits.all Char.isDigit) = false ↔ IsDigits digits := by
    simp [IsDigits]
  constructor
  · intro read
    unfold signedInteger? at read
    split at read
    next negative digits split =>
    split at read
    · contradiction
    next accepted =>
    have isDigits := digitsOnly.1 (Bool.eq_false_of_not_eq_true accepted)
    rw [digitsValue_eq] at read
    unfold splitSign at split
    split at split
    · obtain ⟨rfl, rfl⟩ := Prod.mk.inj split
      obtain rfl := Option.some.inj read
      apply Denotes.plus isDigits
    · obtain ⟨rfl, rfl⟩ := Prod.mk.inj split
      obtain rfl := Option.some.inj read
      apply Denotes.minus isDigits
    · obtain ⟨rfl, rfl⟩ := Prod.mk.inj split
      obtain rfl := Option.some.inj read
      apply Denotes.unsigned isDigits
  · intro denotes
    cases denotes with
    | unsigned isDigits =>
      simp [signedInteger?, splitSign_of_isDigits isDigits, digitsOnly.2 isDigits, digitsValue_eq]
    | plus isDigits =>
      simp [signedInteger?, splitSign, digitsOnly.2 isDigits, digitsValue_eq]
    | minus isDigits =>
      simp [signedInteger?, splitSign, digitsOnly.2 isDigits, digitsValue_eq]

/-- A text that is a number of the integer kind denotes it.  An integer that does not fit is no
such number, though it may well be one of the floating kind. -/
theorem parse?_eq_integer_iff {cs : List Char} {value : Int}
    (fits : -0x8000000000000000 ≤ value ∧ value < 0x10000000000000000) :
  parse? cs = some (.integer value fits) ↔ Denotes cs value
  := by
  rw [← signedInteger?_eq_some_iff]
  constructor
  · intro parsed
    unfold parse? at parsed
    split at parsed
    · next n found =>
      obtain ⟨other, read, kept⟩ := Option.bind_eq_some_iff.1 found
      obtain rfl := Option.some.inj parsed
      unfold ofInt? at kept
      split at kept
      · obtain ⟨rfl⟩ := Number.integer.inj (Option.some.inj kept)
        exact read
      · contradiction
    · obtain ⟨x, -, same⟩ := Option.map_eq_some_iff.1 parsed
      contradiction
  · intro read
    rw [parse?, read, Option.bind_some, ofInt?, dif_pos fits]

/-- A numeral of an integer has no blanks at its ends. -/
theorem Denotes.trimmed {cs : List Char} {value : Int} (denotes : Denotes cs value) :
  Text.Trimmed cs
  := by
  have continues : ∀ c ∈ cs, Lexeme.continuesNumber c = true := by
    have ofDigits {digits : List Char} (isDigits : IsDigits digits) :
        ∀ c ∈ digits, Lexeme.continuesNumber c = true := fun c mem =>
      Json.Numeral.continuesNumber_of_isDigit (isDigits.2 c mem)
    cases denotes with
    | unsigned isDigits => apply ofDigits isDigits
    | plus isDigits | minus isDigits => exact List.forall_mem_cons.2 ⟨rfl, ofDigits isDigits⟩
  apply Text.Trimmed.of_visible
  intro c mem
  by_contra blank
  have separates := Lexeme.isSeparator_of_isBlank (Bool.eq_true_of_not_eq_false blank)
  simp [Lexeme.isSeparator, continues c mem] at separates

/-- The decimal text of an integer is read as the integer, with any blanks around it. -/
theorem parse?_trim_integerText {front back : String} (blankFront : Text.Blank front.toList)
    (blankBack : Text.Blank back.toList) (value : Int)
    (fits : -0x8000000000000000 ≤ value ∧ value < 0x10000000000000000) :
  parse? (Text.trim (front ++ integerText value ++ back)).toList = some (.integer value fits)
  := by
  have denotes := denotes_integerChars value
  rw [integerText, Text.trim_append blankFront denotes.trimmed blankBack, String.toList_ofList,
    parse?_eq_integer_iff]
  exact denotes

/-- The text is a numeral of the integer, with any blanks around it. -/
def Types (raw : String) (value : Int) : Prop :=
  ∃ front numeral back, raw.toList = front ++ numeral ++ back
    ∧ Text.Blank front ∧ Text.Blank back ∧ Denotes numeral value

theorem types_iff {raw : String} {value : Int} :
  Types raw value ↔ Denotes (Text.trim raw).toList value
  := by
  rw [Text.trim, String.toList_ofList]
  constructor
  · rintro ⟨front, numeral, back, shape, blankFront, blankBack, denotes⟩
    rw [shape, Text.trimChars_append blankFront denotes.trimmed blankBack]
    apply denotes
  · intro denotes
    obtain ⟨front, back, shape, blankFront, blankBack⟩ :=
      Text.exists_blanks_trimChars raw.toList
    exact ⟨front, _, back, shape, blankFront, blankBack, denotes⟩

end Number

namespace Domain

open Scalar (IsInteger)

/-! ### Domains of integers -/

/-- The domain consists of the integers between the bounds, both included. -/
inductive Bounds : Domain → Int → Int → Prop where
  | positiveInteger : Bounds .positiveInteger 1 0xffffffffffffffff
  | nonNegativeInteger : Bounds .nonNegativeInteger 0 0xffffffffffffffff
  | integer : Bounds .integer (-0x8000000000000000) 0x7fffffffffffffff
  /-- The bounds of a range are signed integers of 64 bits. -/
  | integerRange {least greatest : Int} (signedLeast : -0x8000000000000000 ≤ least)
    (signedGreatest : greatest ≤ 0x7fffffffffffffff) :
    Bounds (.integerRange least greatest) least greatest

namespace Bounds

variable {d : Domain} {least greatest : Int}

/-- The integers between the bounds fit a number. -/
theorem fits (bounds : d.Bounds least greatest) {value : Int} (above : least ≤ value)
    (below : value ≤ greatest) :
  -0x8000000000000000 ≤ value ∧ value < 0x10000000000000000
  := by
  cases bounds with
  | positiveInteger | nonNegativeInteger | integer | integerRange => omega

theorem admits_iff (bounds : d.Bounds least greatest) {v : Scalar} :
  d.admits v = true ↔ ∃ value, IsInteger v value ∧ least ≤ value ∧ value ≤ greatest
  := by
  have kept (value : Int) (isInteger : IsInteger v value) :
      -0x8000000000000000 ≤ value ∧ value < 0x10000000000000000 := by
    obtain ⟨fits, -⟩ := isInteger
    apply fits
  cases bounds with
  | positiveInteger =>
    rw [admits_positiveInteger_iff]
    grind
  | nonNegativeInteger =>
    rw [admits_nonNegativeInteger_iff]
    grind
  | integer =>
    rw [admits_integer_iff]
    grind
  | integerRange =>
    rw [admits_integerRange_iff]
    grind

/-- A domain of integers reads every text as a number. -/
theorem read?_eq (bounds : d.Bounds least greatest) (raw : String) :
  d.read? raw = (Number.parse? (Text.trim raw).toList).map .number
  := by
  cases bounds with
  | positiveInteger | nonNegativeInteger | integer | integerRange => rfl

end Bounds

/-! ### What is typed -/

/-- A free text is taken if it is read as a value that the domain admits. -/
theorem parse_eq_ok_iff {d : Domain} {name raw : String} {v : Scalar} :
  d.parse name raw = .ok v ↔ d.read? raw = some v ∧ d.admits v = true
  := by
  rw [parse]
  cases d.read? raw with
  | none => simp
  | some w =>
    simp only [map_check_eq_ok_iff, check_eq_ok_iff, Option.some.injEq]
    constructor
    · rintro ⟨admitted, rfl⟩
      exact ⟨rfl, admitted⟩
    · rintro ⟨rfl, admitted⟩
      exact ⟨admitted, rfl⟩

/-- A free text that is not taken is refused with an error that names the placeholder, says what the
domain is, and shows the text or the value that it was read as. -/
theorem parse_refused {d : Domain} {name raw : String} (refused : ∀ v, d.parse name raw ≠ .ok v) :
  ∃ shown, d.parse name raw = .error (d.mismatch name shown)
  := by
  rw [parse] at refused ⊢
  cases read : d.read? raw with
  | none =>
    use raw
  | some v =>
    rw [read] at refused
    use v.display
    cases admitted : d.admits v with
    | true => exact absurd (by simp [check, admitted, Except.map]) (refused v)
    | false => simp [check, admitted, Except.map]

/-- A domain of integers takes what types an integer between its bounds. -/
theorem Bounds.parse_eq_ok_iff {d : Domain} {least greatest : Int}
    (bounds : d.Bounds least greatest) {name raw : String} {v : Scalar} :
  d.parse name raw = .ok v
    ↔ ∃ value, IsInteger v value ∧ Number.Types raw value ∧ least ≤ value ∧ value ≤ greatest
  := by
  rw [Domain.parse_eq_ok_iff, bounds.admits_iff, bounds.read?_eq]
  have read (value : Int) (isInteger : IsInteger v value) :
      (Number.parse? (Text.trim raw).toList).map .number = some v
        ↔ Number.Types raw value := by
    obtain ⟨fits, rfl⟩ := isInteger
    rw [Number.types_iff, ← Number.parse?_eq_integer_iff fits]
    simp
  constructor
  · rintro ⟨isRead, value, isInteger, above, below⟩
    exact ⟨value, isInteger, (read value isInteger).1 isRead, above, below⟩
  · rintro ⟨value, isInteger, types, above, below⟩
    exact ⟨(read value isInteger).2 types, value, isInteger, above, below⟩

/-- **Integers typed by hand.**  A domain of integers takes a free text exactly if that types an
integer between the bounds of the domain, and its value is then this very integer.  Every other
text is refused with an error that names the placeholder. -/
theorem parse_typed {d : Domain} {least greatest : Int} (bounds : d.Bounds least greatest)
    (name raw : String) :
  ((∃ v, d.parse name raw = .ok v)
      ↔ ∃ value, Number.Types raw value ∧ least ≤ value ∧ value ≤ greatest)
    ∧ (∀ value, Number.Types raw value → least ≤ value → value ≤ greatest →
        ∃ fits, d.parse name raw = .ok (.number (.integer value fits)))
    ∧ ((¬∃ value, Number.Types raw value ∧ least ≤ value ∧ value ≤ greatest) →
        ∃ shown, d.parse name raw
          = .error (.invalidValue name ("expected a " ++ d.describe ++ ", got '" ++ shown ++ "'")))
  := by
  have taken (value : Int) (types : Number.Types raw value) (above : least ≤ value)
      (below : value ≤ greatest) :
      ∃ fits, d.parse name raw = .ok (.number (.integer value fits)) := by
    have fits := bounds.fits above below
    exact ⟨fits, bounds.parse_eq_ok_iff.2 ⟨value, ⟨fits, rfl⟩, types, above, below⟩⟩
  refine ⟨?_, taken, ?_⟩
  · constructor
    · rintro ⟨v, parsed⟩
      obtain ⟨value, -, inDomain⟩ := bounds.parse_eq_ok_iff.1 parsed
      exact ⟨value, inDomain⟩
    · rintro ⟨value, types, above, below⟩
      obtain ⟨fits, parsed⟩ := taken value types above below
      exact ⟨_, parsed⟩
  · intro outside
    apply parse_refused
    intro v parsed
    obtain ⟨value, -, inDomain⟩ := bounds.parse_eq_ok_iff.1 parsed
    exact outside ⟨value, inDomain⟩

/-- The greatest integer of all, with a sign, a leading zero and blanks of several kinds. -/
theorem parse_typed_greatest :
  positiveInteger.Bounds 1 0xffffffffffffffff
    ∧ Number.Types "\u3000\t+018446744073709551615\n" 18446744073709551615
    ∧ ∃ fits, positiveInteger.parse "GBSIZE" "\u3000\t+018446744073709551615\n"
        = .ok (.number (.integer 18446744073709551615 fits))
  := by
  have types : Number.Types "\u3000\t+018446744073709551615\n" 18446744073709551615 := by
    refine ⟨['\u3000', '\t'], "+018446744073709551615".toList, ['\n'], by decide, ?_, ?_, ?_⟩
    · exact List.all_eq_true.1 (by decide)
    · exact List.all_eq_true.1 (by decide)
    · have digits : Json.Numeral.IsDigits "018446744073709551615".toList := by decide
      exact .plus digits
  refine ⟨.positiveInteger, types, ?_⟩
  exact (parse_typed .positiveInteger "GBSIZE" _).2.1 _ types (by decide) (by decide)

end Domain

end ConfigTemplate
