import ConfigTemplate.Json.Reader
import ConfigTemplate.Proofs.Placeholder.TidyRow
import Mathlib.Data.List.TakeWhile

/-!
# Numerals as they are written

The grammar of JSON numerals: an optional minus, a whole part without leading zeros, and
optionally a fraction and an exponent.  The reader of numerals accepts what the grammar writes
and nothing else, and every integer of 64 bits is read back from its decimal text.
-/

namespace ConfigTemplate.Json

/-- A successful chain of two steps consists of two successful steps. -/
theorem bind_eq_ok {ε α β : Type} {first : Except ε α} {next : α → Except ε β} {result : β}
    (h : first >>= next = .ok result) :
  ∃ value, first = .ok value ∧ next value = .ok result
  := by
  cases first with
  | error e => simp [bind, Except.bind] at h
  | ok value => exact ⟨value, rfl, h⟩

theorem mapError_eq_ok_iff {ε ε' α : Type} {f : ε → ε'} {result : Except ε α} {value : α} :
  result.mapError f = .ok value ↔ result = .ok value
  := by
  cases result with
  | error e => simp [Except.mapError]
  | ok x => simp [Except.mapError]

namespace Numeral

/-- Decimal digits, at least one. -/
def IsDigits (cs : List Char) : Prop :=
  cs ≠ [] ∧ ∀ c ∈ cs, c.isDigit = true

instance (cs : List Char) : Decidable (IsDigits cs) :=
  decidable_of_iff (cs ≠ [] ∧ cs.all Char.isDigit = true) (by rw [IsDigits, List.all_eq_true])

/-- The fraction as it is written. -/
def fractionChars : Option (List Char) → List Char
  | none => []
  | some digits => '.' :: digits

/-- The exponent as it is written after a letter. -/
def exponentChars (letter : Char) : Option (Option Char × List Char) → List Char
  | none => []
  | some (sign, digits) => letter :: sign.toList ++ digits

/-- The numeral as it is written; the letter announces the exponent. -/
def spelled (n : Numeral) (letter : Char) : List Char :=
  (if n.negative then ['-'] else []) ++ n.whole ++ fractionChars n.fraction
    ++ exponentChars letter n.exponent

/-- The parts are those that the grammar allows. -/
structure Valid (n : Numeral) : Prop where
  whole : IsDigits n.whole
  noLeadingZero : n.whole.head? = some '0' → n.whole = ['0']
  fraction : ∀ digits ∈ n.fraction, IsDigits digits
  exponent : ∀ part ∈ n.exponent, IsDigits part.2
  sign : ∀ part ∈ n.exponent, ∀ sign ∈ part.1, sign = '+' ∨ sign = '-'

/-- A character that neither is a digit nor leads to a fraction or an exponent. -/
def Ends (rest : List Char) : Prop :=
  ∀ c ∈ rest.head?, Lexeme.continuesNumber c = false

theorem isDigit_of_continues {rest : List Char} (ends : Ends rest) :
  ∀ c ∈ rest.head?, c.isDigit = false
  := by
  intro c first
  have := ends c first
  simp only [Lexeme.continuesNumber, Bool.or_eq_false_iff] at this
  apply this.1.1.1.1.1

/-! ### The reader accepts what the grammar writes -/

theorem readWhole_append {whole rest : List Char} (digits : IsDigits whole)
    (noLeadingZero : whole.head? = some '0' → whole = ['0'])
    (stop : ∀ c ∈ rest.head?, c.isDigit = false) (p : Position) :
  readWhole p (whole ++ rest) = .ok whole
  := by
  obtain ⟨c, tail, rfl⟩ := List.exists_cons_of_ne_nil digits.1
  by_cases zero : c = '0'
  · subst zero
    obtain rfl : tail = [] := by simpa using noLeadingZero rfl
    cases rest with
    | nil => rfl
    | cons d rest => simp [readWhole, stop d (by simp)]
  · have first := digits.2 c (by simp)
    have cut := (span_append digits.2 stop).1
    rw [List.cons_append] at cut ⊢
    rw [readWhole.eq_4 _ _ _ zero, if_pos first, cut]

/-- Digits behind a letter that announces them are read to their end. -/
theorem readFraction_append {fraction : Option (List Char)} {rest : List Char}
    (digits : ∀ part ∈ fraction, IsDigits part) (stop : ∀ c ∈ rest.head?, c.isDigit = false)
    (noPoint : fraction = none → ∀ c ∈ rest.head?, c ≠ '.') (p : Position) :
  readFraction p (fractionChars fraction ++ rest) = .ok fraction
  := by
  cases fraction with
  | none =>
    cases rest with
    | nil => rfl
    | cons c rest =>
      have := noPoint rfl c (by simp)
      simp [fractionChars, readFraction, this]
  | some part =>
    have cut := (span_append (digits part rfl).2 stop).1
    obtain ⟨c, tail, rfl⟩ := List.exists_cons_of_ne_nil (digits part rfl).1
    have first := (digits _ rfl).2 c (by simp)
    simp only [List.cons_append, fractionChars] at cut ⊢
    rw [readFraction, if_pos first, cut]

theorem readExponent_append {letter : Char} {exponent : Option (Option Char × List Char)}
    {rest : List Char} (isLetter : letter = 'e' ∨ letter = 'E')
    (digits : ∀ part ∈ exponent, IsDigits part.2)
    (signs : ∀ part ∈ exponent, ∀ sign ∈ part.1, sign = '+' ∨ sign = '-') (ends : Ends rest)
    (p : Position) :
  readExponent p (exponentChars letter exponent ++ rest) = .ok exponent
  := by
  cases exponent with
  | none =>
    cases rest with
    | nil => rfl
    | cons c rest =>
      have := ends c (by simp)
      simp only [Lexeme.continuesNumber, Bool.or_eq_false_iff] at this
      simp [exponentChars, readExponent, this.1.1.2, this.1.1.1.2]
  | some part =>
    obtain ⟨sign, part⟩ := part
    have cut := (span_append (digits _ rfl).2 (isDigit_of_continues ends)).1
    obtain ⟨c, tail, rfl⟩ := List.exists_cons_of_ne_nil (digits _ rfl).1
    have first := (digits _ rfl).2 c (by simp)
    have noSign : c ≠ '+' ∧ c ≠ '-' := by
      constructor
      · rintro rfl
        simp at first
      · rintro rfl
        simp at first
    have announced : (letter == 'e' || letter == 'E') = true := by simpa using isLetter
    simp only [List.cons_append, exponentChars] at cut ⊢
    cases sign with
    | none => simp [readExponent, splitSign, announced, noSign.1, noSign.2, first, cut]
    | some sign =>
      have isSign : sign = '+' ∨ sign = '-' := signs _ rfl sign rfl
      simp [readExponent, splitSign, announced, isSign, first, cut]

theorem isDigit_eq_false_of_letter {letter : Char} (h : letter = 'e' ∨ letter = 'E') :
  letter.isDigit = false
  := by
  rcases h with rfl | rfl
  · rfl
  · rfl

/-- No digit follows what comes before the exponent. -/
theorem head_exponentChars {letter : Char} (isLetter : letter = 'e' ∨ letter = 'E')
    (exponent : Option (Option Char × List Char)) {rest : List Char} (ends : Ends rest) :
  ∀ c ∈ (exponentChars letter exponent ++ rest).head?, c.isDigit = false ∧ c ≠ '.'
  := by
  intro c first
  cases exponent with
  | none =>
    constructor
    · apply isDigit_of_continues ends c first
    · rintro rfl
      simpa [Lexeme.continuesNumber] using ends '.' first
  | some part =>
    obtain rfl : letter = c := by simpa [exponentChars] using first
    constructor
    · apply isDigit_eq_false_of_letter isLetter
    · rintro rfl
      simp at isLetter

/-- No digit follows the whole part. -/
theorem head_fractionChars {fraction : Option (List Char)} {rest : List Char}
    (stop : ∀ c ∈ rest.head?, c.isDigit = false) :
  ∀ c ∈ (fractionChars fraction ++ rest).head?, c.isDigit = false
  := by
  intro c first
  cases fraction with
  | none => apply stop c first
  | some digits =>
    obtain rfl : '.' = c := by simpa [fractionChars] using first
    rfl

theorem length_fractionChars (fraction : Option (List Char)) :
  (fractionChars fraction).length = fractionLength fraction
  := by
  cases fraction with
  | none => rfl
  | some digits => simp [fractionChars, fractionLength, Nat.add_comm 1]

/-- The number of characters of a numeral. -/
theorem length_spelled (n : Numeral) (letter : Char) :
  (n.spelled letter).length = n.length
  := by
  obtain ⟨negative, whole, fraction, exponent⟩ := n
  have minus : (if negative then ['-'] else []).length = if negative then 1 else 0 := by
    cases negative <;> rfl
  simp only [spelled, length, leadLength, exponentDigits, List.length_append, minus,
    length_fractionChars]
  rcases exponent with _ | ⟨_ | sign, digits⟩
  · simp [exponentChars, exponentLead]
  · simp [exponentChars, exponentLead]
    omega
  · simp [exponentChars, exponentLead]
    omega

/-- The reader takes a numeral off the front of a text that does not go on with it. -/
theorem read_spelled {n : Numeral} (valid : n.Valid) {letter : Char}
    (isLetter : letter = 'e' ∨ letter = 'E') {rest : List Char} (ends : Ends rest)
    (p : Position) :
  read p (n.spelled letter ++ rest) = .ok n
  := by
  have behind := head_exponentChars isLetter n.exponent ends
  have split : splitMinus (n.spelled letter ++ rest) = (n.negative,
      n.whole ++ (fractionChars n.fraction ++ (exponentChars letter n.exponent ++ rest))) := by
    obtain ⟨c, tail, shape⟩ := List.exists_cons_of_ne_nil valid.whole.1
    have noSign : c ≠ '-' := by
      rintro rfl
      have := valid.whole.2 '-' (by simp [shape])
      simp at this
    cases sign : n.negative with
    | false => simp [spelled, sign, shape, splitMinus, noSign]
    | true => simp [spelled, sign, splitMinus]
  rw [read, split]
  dsimp only
  rw [readWhole_append valid.whole valid.noLeadingZero
    (head_fractionChars fun c first => (behind c first).1)]
  simp only [bind, Except.bind, List.drop_left]
  rw [readFraction_append valid.fraction (fun c first => (behind c first).1)
    (fun _ c first => (behind c first).2)]
  simp only [← length_fractionChars, List.drop_left]
  rw [readExponent_append isLetter valid.exponent valid.sign ends]
  rfl

/-! ### What the reader accepts is written by the grammar -/

/-- The digits at the front of a text that starts with a digit. -/
theorem isDigits_takeWhile {c : Char} {rest : List Char} (h : c.isDigit = true) :
  IsDigits ((c :: rest).takeWhile Char.isDigit)
  := by
  constructor
  · simp [h]
  · intro d mem
    apply List.mem_takeWhile_imp mem

theorem exists_append_of_readWhole {p : Position} {cs whole : List Char}
    (h : readWhole p cs = .ok whole) :
  IsDigits whole ∧ (whole.head? = some '0' → whole = ['0']) ∧ ∃ rest, cs = whole ++ rest
  := by
  unfold readWhole at h
  split at h
  · simp at h
  · next rest =>
    have zero : whole = ['0'] := by
      split at h
      · split at h
        · simp at h
        · simpa using h.symm
      · simpa using h.symm
    subst zero
    refine ⟨by decide, fun _ => rfl, rest, rfl⟩
  · next d rest notZero =>
    split at h
    · next digit =>
      obtain rfl : (d :: rest).takeWhile Char.isDigit = whole := by simpa using h
      refine ⟨isDigits_takeWhile digit, ?_, (d :: rest).dropWhile Char.isDigit, ?_⟩
      · intro first
        simp only [List.takeWhile_cons, digit, if_true, List.head?_cons, Option.some.injEq] at first
        exact absurd first (by simpa using notZero)
      · exact List.takeWhile_append_dropWhile.symm
    · simp at h

theorem exists_append_of_readFraction {p : Position} {cs : List Char}
    {fraction : Option (List Char)} (h : readFraction p cs = .ok fraction) :
  (∀ digits ∈ fraction, IsDigits digits) ∧ ∃ rest, cs = fractionChars fraction ++ rest
  := by
  unfold readFraction at h
  split at h
  · next rest =>
    dsimp only at h
    split at h
    · simp at h
    · next d rest =>
      split at h
      · next digit =>
        obtain rfl : some ((d :: rest).takeWhile Char.isDigit) = fraction := by simpa using h
        constructor
        · rintro digits ⟨⟩
          apply isDigits_takeWhile digit
        · use (d :: rest).dropWhile Char.isDigit
          simp only [fractionChars, List.cons_append, List.takeWhile_append_dropWhile]
      · simp at h
  · obtain rfl : none = fraction := by simpa using h
    constructor
    · simp
    · use cs
      rfl

theorem eq_append_of_splitSign {cs rest : List Char} {sign : Option Char}
    (h : splitSign cs = (sign, rest)) :
  cs = sign.toList ++ rest ∧ ∀ c ∈ sign, c = '+' ∨ c = '-'
  := by
  unfold splitSign at h
  split at h
  · obtain ⟨rfl, rfl⟩ := Prod.mk.inj h
    simp
  · split at h
    · next isSign =>
      obtain ⟨rfl, rfl⟩ := Prod.mk.inj h
      simpa using isSign
    · obtain ⟨rfl, rfl⟩ := Prod.mk.inj h
      simp

theorem exists_append_of_readExponent {p : Position} {cs : List Char}
    {exponent : Option (Option Char × List Char)} (h : readExponent p cs = .ok exponent) :
  (∀ part ∈ exponent, IsDigits part.2)
    ∧ (∀ part ∈ exponent, ∀ sign ∈ part.1, sign = '+' ∨ sign = '-')
    ∧ ∃ letter rest, (letter = 'e' ∨ letter = 'E') ∧ cs = exponentChars letter exponent ++ rest
  := by
  unfold readExponent at h
  split at h
  · next letter rest =>
    split at h
    · next isLetter =>
      rcases split : splitSign rest with ⟨sign, digits⟩
      rw [split] at h
      dsimp only at h
      obtain ⟨rfl, signs⟩ := eq_append_of_splitSign split
      split at h
      · simp at h
      · next d tail =>
        split at h
        · next digit =>
          obtain rfl : some (sign, (d :: tail).takeWhile Char.isDigit) = exponent := by
            simpa using h
          refine ⟨?_, ?_, letter, (d :: tail).dropWhile Char.isDigit, by simpa using isLetter, ?_⟩
          · rintro part ⟨⟩
            apply isDigits_takeWhile digit
          · rintro part ⟨⟩ s mem
            apply signs s mem
          · simp only [exponentChars, List.cons_append, List.append_assoc,
              List.takeWhile_append_dropWhile]
        · simp at h
    · obtain rfl : none = exponent := by simpa using h
      refine ⟨by simp, by simp, 'e', letter :: rest, .inl rfl, rfl⟩
  · obtain rfl : none = exponent := by simpa using h
    refine ⟨by simp, by simp, 'e', [], .inl rfl, rfl⟩

theorem eq_append_of_splitMinus {cs rest : List Char} {negative : Bool}
    (h : splitMinus cs = (negative, rest)) :
  cs = (if negative then ['-'] else []) ++ rest
  := by
  unfold splitMinus at h
  split at h
  · obtain ⟨rfl, rfl⟩ := Prod.mk.inj h
    rfl
  · obtain ⟨rfl, rfl⟩ := Prod.mk.inj h
    rfl

/-- What the reader takes off the front of a text is a numeral of the grammar. -/
theorem exists_spelled_of_read {p : Position} {cs : List Char} {n : Numeral}
    (h : read p cs = .ok n) :
  n.Valid ∧ ∃ letter rest, (letter = 'e' ∨ letter = 'E') ∧ cs = n.spelled letter ++ rest
  := by
  rcases split : splitMinus cs with ⟨negative, unsigned⟩
  obtain rfl := eq_append_of_splitMinus split
  rw [read, split] at h
  dsimp only at h
  obtain ⟨whole, readsWhole, behindWhole⟩ := bind_eq_ok h
  obtain ⟨wholeDigits, noLeadingZero, afterWhole, rfl⟩ := exists_append_of_readWhole readsWhole
  rw [List.drop_left] at behindWhole
  obtain ⟨fraction, readsFraction, behindFraction⟩ := bind_eq_ok behindWhole
  obtain ⟨fractionDigits, afterFraction, rfl⟩ := exists_append_of_readFraction readsFraction
  rw [← length_fractionChars, List.drop_left] at behindFraction
  obtain ⟨exponent, readsExponent, whole_eq⟩ := bind_eq_ok behindFraction
  obtain ⟨exponentDigits, signs, letter, rest, isLetter, rfl⟩ :=
    exists_append_of_readExponent readsExponent
  obtain rfl : ⟨negative, whole, fraction, exponent⟩ = n := Except.ok.inj whole_eq
  constructor
  · exact ⟨wholeDigits, noLeadingZero, fractionDigits, exponentDigits, signs⟩
  · refine ⟨letter, rest, isLetter, ?_⟩
    simp only [spelled, List.append_assoc]

/-! ### Numerals as lexemes -/

theorem continuesNumber_of_isDigit {c : Char} (h : c.isDigit = true) :
  Lexeme.continuesNumber c = true
  := by
  simp [Lexeme.continuesNumber, h]

/-- Every character of a numeral goes on with a run of number characters. -/
theorem continuesNumber_of_mem_spelled {n : Numeral} (valid : n.Valid) {letter : Char}
    (isLetter : letter = 'e' ∨ letter = 'E') :
  ∀ c ∈ n.spelled letter, Lexeme.continuesNumber c = true
  := by
  intro c mem
  simp only [spelled, List.mem_append] at mem
  rcases mem with ((minus | whole) | fraction) | exponent
  · cases sign : n.negative with
    | false => simp [sign] at minus
    | true =>
      obtain rfl : c = '-' := by simpa [sign] using minus
      rfl
  · apply continuesNumber_of_isDigit (valid.whole.2 c whole)
  · cases shape : n.fraction with
    | none => simp [shape, fractionChars] at fraction
    | some digits =>
      rw [shape, fractionChars, List.mem_cons] at fraction
      rcases fraction with rfl | digit
      · rfl
      · apply continuesNumber_of_isDigit ((valid.fraction _ shape).2 c digit)
  · cases shape : n.exponent with
    | none => simp [shape, exponentChars] at exponent
    | some part =>
      simp only [shape, exponentChars, List.cons_append, List.mem_cons, List.mem_append,
        Option.mem_toList] at exponent
      rcases exponent with rfl | sign | digit
      · rcases isLetter with rfl | rfl
        · rfl
        · rfl
      · rcases valid.sign _ shape c sign with rfl | rfl
        · rfl
        · rfl
      · apply continuesNumber_of_isDigit ((valid.exponent _ shape).2 c digit)

/-- A numeral starts with a minus or a digit. -/
theorem exists_cons_spelled {n : Numeral} (valid : n.Valid) (letter : Char) :
  ∃ c rest, n.spelled letter = c :: rest ∧ (c = '-' ∨ c.isDigit = true)
  := by
  obtain ⟨c, tail, shape⟩ := List.exists_cons_of_ne_nil valid.whole.1
  cases sign : n.negative with
  | false =>
    refine ⟨c, _, by simp [spelled, sign, shape]; rfl, .inr ?_⟩
    apply valid.whole.2 c
    simp [shape]
  | true => exact ⟨'-', _, by simp [spelled, sign]; rfl, .inl rfl⟩

/-- A numeral is one lexeme. -/
theorem proper_spelled {n : Numeral} (valid : n.Valid) {letter : Char}
    (isLetter : letter = 'e' ∨ letter = 'E') :
  (Lexeme.number (n.spelled letter)).Proper
  := by
  obtain ⟨c, rest, shape, first⟩ := exists_cons_spelled valid letter
  have continues := continuesNumber_of_mem_spelled valid isLetter
  rw [shape] at continues ⊢
  apply Lexeme.Proper.number
  · simpa [Lexeme.startsNumber] using first
  · intro d mem
    apply continues d (List.mem_cons_of_mem c mem)

/-! ### Integers -/

theorem le_ofDigitChars (digits : List Char) (start : Nat) :
  start ≤ Nat.ofDigitChars 10 digits start
  := by
  induction digits generalizing start with
  | nil => simp
  | cons c rest ih =>
    rw [Nat.ofDigitChars_cons]
    have := ih (10 * start + (c.toNat - '0'.toNat))
    omega

/-- Digits of a number that fits 64 bits are all taken in. -/
theorem gather_eq {digits : List Char} {start : Nat}
    (fits : Nat.ofDigitChars 10 digits start < 0x10000000000000000) :
  gather start digits = (Nat.ofDigitChars 10 digits start, digits.length)
  := by
  induction digits generalizing start with
  | nil => simp [gather]
  | cons c rest ih =>
    rw [Nat.ofDigitChars_cons] at fits ⊢
    have next := le_ofDigitChars rest (10 * start + (c.toNat - '0'.toNat))
    rw [gather, if_pos (by omega), ih fits]
    rfl

theorem isDigits_toDigits (n : Nat) :
  IsDigits (Nat.toDigits 10 n)
  := by
  constructor
  · simp
  · intro c mem
    apply Nat.isDigit_of_mem_toDigits (by decide) (by decide) mem

/-- Only zero is written with a zero in front. -/
theorem eq_zero_of_head_toDigits {n : Nat} (h : (Nat.toDigits 10 n).head? = some '0') :
  n = 0
  := by
  induction n using Nat.strongRecOn with
  | ind n ih =>
    by_cases small : n < 10
    · rw [Nat.toDigits_of_lt_base small] at h
      simpa using h
    · obtain ⟨c, tail, shape⟩ :=
        List.exists_cons_of_ne_nil (Nat.toDigits_ne_nil (b := 10) (n := n / 10))
      rw [Nat.toDigits_of_base_le (by decide) (by omega), shape] at h
      have := ih (n / 10) (by omega) (by rw [shape]; simpa using h)
      omega

/-- The numeral of an integer. -/
def ofInt (value : Int) : Numeral :=
  ⟨value < 0, Nat.toDigits 10 value.natAbs, none, none⟩

theorem valid_ofInt (value : Int) :
  (ofInt value).Valid
  where
  whole := isDigits_toDigits _
  noLeadingZero h := by
    rw [ofInt, eq_zero_of_head_toDigits h]
    rfl
  fraction := by simp [ofInt]
  exponent := by simp [ofInt]
  sign := by simp [ofInt]

/-- The numeral of an integer is its decimal text. -/
theorem spelled_ofInt (value : Int) (letter : Char) :
  (ofInt value).spelled letter = Number.integerChars value
  := by
  by_cases negative : value < 0
  · simp [spelled, ofInt, negative, fractionChars, exponentChars, Number.integerChars]
  · simp [spelled, ofInt, negative, fractionChars, exponentChars, Number.integerChars]

/-- An integer of at most 64 bits is kept exactly. -/
theorem toNumber_ofInt (value : Int)
    (fits : -0x8000000000000000 ≤ value ∧ value < 0x10000000000000000) :
  (ofInt value).toNumber = .ok (.integer value fits)
  := by
  have whole : Nat.ofDigitChars 10 (Nat.toDigits 10 value.natAbs) 0 = value.natAbs :=
    Nat.ofDigitChars_ten_toDigits
  have gathered : gather 0 (Nat.toDigits 10 value.natAbs)
      = (value.natAbs, (Nat.toDigits 10 value.natAbs).length) := by
    rw [gather_eq (by omega), whole]
  have signed : (if decide (value < 0) = true then -(value.natAbs : Int) else value.natAbs)
      = value := by
    split
    · next negative =>
      rw [decide_eq_true_iff] at negative
      omega
    · next notNegative =>
      rw [decide_eq_true_iff] at notNegative
      omega
  have noMinusZero : (decide (value < 0) && value.natAbs == 0) = false := by
    by_cases negative : value < 0
    · simp [negative, Int.ne_of_lt negative]
    · simp [negative]
  have kept : Number.ofInt? value = some (.integer value fits) := dif_pos fits
  simp only [toNumber, ofInt, gathered, signed, noMinusZero, kept, Nat.lt_irrefl, decide_false,
    Bool.or_self, Bool.false_eq_true, if_false]

end Numeral

/-- A numeral as it is written, with the number that it denotes. -/
structure NumeralText where
  numeral : Numeral
  letter : Char
  number : Number
  valid : numeral.Valid
  isLetter : letter = 'e' ∨ letter = 'E'
  denotes : numeral.toNumber = .ok number

namespace NumeralText

/-- The characters of a numeral. -/
def chars (t : NumeralText) : List Char := t.numeral.spelled t.letter

/-- The decimal text of an integer of at most 64 bits. -/
def ofInt (value : Int) (fits : -0x8000000000000000 ≤ value ∧ value < 0x10000000000000000) :
    NumeralText where
  numeral := .ofInt value
  letter := 'e'
  number := .integer value fits
  valid := Numeral.valid_ofInt value
  isLetter := .inl rfl
  denotes := Numeral.toNumber_ofInt value fits

end NumeralText

end ConfigTemplate.Json
