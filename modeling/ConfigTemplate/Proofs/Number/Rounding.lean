import ConfigTemplate.Number.Basic
import Mathlib.Algebra.Group.Int.Defs
import Mathlib.Algebra.Group.Nat.Defs
import Mathlib.Tactic.Common

/-!
# Integers as floating point numbers

An integer of more than 53 bits is rounded to a number of 53 significant bits, and every integer of
at most 64 bits has a floating point value.  Rounding keeps the order of integers but not their
differences: a greater integer has the greater value or the same one, `toBinary_lt_iff_ne`.
-/

namespace ConfigTemplate

namespace Binary64

/-! ### Quotients -/

section

variable {num num' den : Nat}

/-- A quotient that is an integer is not rounded. -/
theorem roundQuotient_mul (q : Nat) {den : Nat} (pos : 0 < den) :
  roundQuotient (q * den) den = q
  := by
  simp [roundQuotient, Nat.mul_div_cancel q pos, pos]

/-- A fraction need not be in lowest terms. -/
theorem roundQuotient_mul_right (num den : Nat) {k : Nat} (pos : 0 < k) :
  roundQuotient (num * k) (den * k) = roundQuotient num den
  := by
  have remainder : 2 * (num % den * k) = 2 * (num % den) * k := (Nat.mul_assoc _ _ _).symm
  simp only [roundQuotient, Nat.mul_div_mul_right _ _ pos, Nat.mul_mod_mul_right, remainder,
    Nat.mul_lt_mul_right pos]

/-- The quotient is rounded to one of the two integers beside it. -/
theorem div_le_roundQuotient :
  num / den ≤ roundQuotient num den
  := by
  unfold roundQuotient
  grind

theorem roundQuotient_le_div_succ :
  roundQuotient num den ≤ num / den + 1
  := by
  unfold roundQuotient
  grind

/-- A greater quotient is not rounded to a lesser integer. -/
theorem roundQuotient_mono (le : num ≤ num') :
  roundQuotient num den ≤ roundQuotient num' den
  := by
  rcases Nat.eq_or_lt_of_le (Nat.div_le_div_right (c := den) le) with same | less
  · have remainders : num % den ≤ num' % den := by
      have whole := Nat.div_add_mod num den
      have whole' := Nat.div_add_mod num' den
      rw [same] at whole
      omega
    unfold roundQuotient
    grind
  · calc
      roundQuotient num den ≤ num / den + 1 := roundQuotient_le_div_succ
      _ ≤ num' / den := less
      _ ≤ roundQuotient num' den := div_le_roundQuotient

/-- The quotient is rounded by a half at most. -/
theorem roundQuotient_near (num : Nat) (pos : 0 < den) :
  2 * num ≤ 2 * (roundQuotient num den * den) + den
    ∧ 2 * (roundQuotient num den * den) ≤ 2 * num + den
  := by
  have whole := Nat.div_add_mod' num den
  have part := Nat.mod_lt num pos
  have next : (num / den + 1) * den = num / den * den + den := Nat.succ_mul _ _
  unfold roundQuotient
  grind

end

/-! ### Ranks of integers -/

theorem log2_mul_shiftLeft {n : Nat} (pos : 0 < n) (k : Nat) :
  Nat.log2 (n * 1 <<< k) = Nat.log2 n + k
  := by
  rw [Nat.one_shiftLeft]
  have power : 0 < 2 ^ k := Nat.two_pow_pos k
  have product : n * 2 ^ k ≠ 0 := Nat.ne_of_gt (Nat.mul_pos pos power)
  rw [Nat.log2_eq_iff product, Nat.pow_add, Nat.add_right_comm, Nat.pow_add]
  constructor
  · exact Nat.mul_le_mul_right _ (Nat.log2_self_le (Nat.ne_of_gt pos))
  · exact Nat.mul_lt_mul_of_pos_right Nat.lt_log2_self power

/-- The significand of an integer, rounded to 53 bits, the first of them for the greatest power of
two in the integer. -/
def leading (n : Nat) : Nat := roundQuotient (n * 2 ^ 52) (2 ^ Nat.log2 n)

/-- The rank of an integer is made of its exponent and its significand. -/
theorem nearestRank_eq {n : Nat} (pos : 0 < n) :
  nearestRank n 1 = (Nat.log2 n + 1022) * 2 ^ 52 + leading n
  := by
  have scaledUp (m k : Nat) : m * 1 <<< (k + 1022) = m * 2 ^ k * 1 <<< 1022 := by
    simp only [Nat.one_shiftLeft, Nat.pow_add, Nat.mul_assoc]
  have units : n * unitsInOne = n * 2 ^ 52 * 1 <<< 1022 := scaledUp n 52
  have unit : 1 <<< (Nat.log2 n + 1022) = 2 ^ Nat.log2 n * 1 <<< 1022 := by
    rw [← Nat.one_mul (1 <<< _), scaledUp, Nat.one_mul]
  have positive : 0 < 1 <<< 1022 := by decide
  have exponent : Nat.log2 (n * unitsInOne) = Nat.log2 n + 1074 := log2_mul_shiftLeft pos 1074
  have shift : Nat.log2 n + 1074 - 52 = Nat.log2 n + 1022 := by omega
  rw [nearestRank, Nat.div_one, exponent, shift, units, unit,
    roundQuotient_mul_right _ _ positive, Nat.shiftLeft_eq, leading]

/-- A significand has 53 bits, or is rounded up to the least number that has more. -/
theorem leading_bounds {n : Nat} (pos : 0 < n) :
  2 ^ 52 ≤ leading n ∧ leading n ≤ 2 ^ 53
  := by
  have scale : 0 < 2 ^ Nat.log2 n := Nat.two_pow_pos _
  have least : 2 ^ Nat.log2 n ≤ n := Nat.log2_self_le (Nat.ne_of_gt pos)
  have greatest : n < 2 ^ Nat.log2 n * 2 := Nat.lt_log2_self
  constructor
  · calc
      2 ^ 52 = roundQuotient (2 ^ 52 * 2 ^ Nat.log2 n) (2 ^ Nat.log2 n) :=
        (roundQuotient_mul _ scale).symm
      _ ≤ leading n := roundQuotient_mono (by omega)
  · calc
      leading n ≤ roundQuotient (2 ^ 53 * 2 ^ Nat.log2 n) (2 ^ Nat.log2 n) :=
        roundQuotient_mono (by omega)
      _ = 2 ^ 53 := roundQuotient_mul _ scale

theorem log2_mono {a b : Nat} (pos : 0 < a) (le : a ≤ b) :
  Nat.log2 a ≤ Nat.log2 b
  := by
  rw [Nat.le_log2 (Nat.ne_of_gt (Nat.lt_of_lt_of_le pos le))]
  exact Nat.le_trans (Nat.log2_self_le (Nat.ne_of_gt pos)) le

/-- A greater integer does not have a lesser rank. -/
theorem nearestRank_mono {a b : Nat} (le : a ≤ b) :
  nearestRank a 1 ≤ nearestRank b 1
  := by
  rcases Nat.eq_zero_or_pos a with rfl | pos
  · have origin : nearestRank 0 1 = 0 := by decide
    omega
  · have pos' : 0 < b := Nat.lt_of_lt_of_le pos le
    rw [nearestRank_eq pos, nearestRank_eq pos']
    rcases Nat.eq_or_lt_of_le (log2_mono pos le) with same | lower
    · have significands : leading a ≤ leading b := by
        rw [leading, leading, same]
        apply roundQuotient_mono (Nat.mul_le_mul_right _ le)
      omega
    · have := (leading_bounds pos).2
      have := (leading_bounds pos').1
      omega

/-- An integer of 64 bits is not beyond the finite numbers. -/
theorem nearestRank_finite {n : Nat} (bounded : n ≤ 2 ^ 64) :
  nearestRank n 1 < 2047 <<< 52
  := by
  have greatest : nearestRank (2 ^ 64) 1 < 2047 <<< 52 := by decide +kernel
  exact Nat.lt_of_le_of_lt (nearestRank_mono bounded) greatest

theorem nearestRank_pos {n : Nat} (pos : 0 < n) :
  0 < nearestRank n 1
  := by
  rw [nearestRank_eq pos]
  omega

/-- Integers of one rank are rounded to the same multiple of a power of two. -/
theorem leading_mul_eq {a b : Nat} (pos : 0 < a) (le : a ≤ b)
    (same : nearestRank a 1 = nearestRank b 1) :
  leading a * 2 ^ Nat.log2 a = leading b * 2 ^ Nat.log2 b
  := by
  have pos' : 0 < b := Nat.lt_of_lt_of_le pos le
  have exponents := log2_mono pos le
  have := (leading_bounds pos).2
  have := (leading_bounds pos').1
  rw [nearestRank_eq pos, nearestRank_eq pos'] at same
  rcases Nat.eq_or_lt_of_le exponents with equal | lower
  · have significands : leading a = leading b := by omega
    rw [significands, equal]
  · -- The lesser one is rounded up to a power of two.
    have next : Nat.log2 b = Nat.log2 a + 1 := by omega
    have up : leading a = 2 ^ 52 * 2 := by omega
    have power : leading b = 2 ^ 52 := by omega
    rw [up, power, next, Nat.mul_assoc, Nat.pow_succ' (n := Nat.log2 a)]

end Binary64

namespace Number

open Binary64

variable {a b : Int} {fits : -0x8000000000000000 ≤ a ∧ a < 0x10000000000000000}
  {fits' : -0x8000000000000000 ≤ b ∧ b < 0x10000000000000000}

/-! ### The order of integers -/

theorem exists_of_toInt? {n : Number} (whole : n.toInt? = some a) :
  ∃ fits, n = integer a fits
  := by
  cases n with
  | integer value fits =>
    obtain rfl := Option.some.inj whole
    exact ⟨fits, rfl⟩
  | float => contradiction

theorem natAbs_finite (fits : -0x8000000000000000 ≤ a ∧ a < 0x10000000000000000) :
  nearestRank a.natAbs 1 < 2047 <<< 52
  := by
  apply nearestRank_finite
  omega

/-- The floating point value of an integer has its sign and the rank of its magnitude. -/
theorem toBinary_eq :
  (integer a fits).toBinary = ⟨decide (a < 0), nearestRank a.natAbs 1, natAbs_finite fits⟩
  := by
  rw [toBinary, Binary64.ofInt?, Binary64.round, dif_pos (natAbs_finite fits), Option.getD_some]

theorem place_integer :
  (integer a fits).toBinary.place
    = if a < 0 then -(nearestRank a.natAbs 1 : Int) else nearestRank a.natAbs 1
  := by
  rw [toBinary_eq]
  simp [place]

/-- A greater integer does not have a lesser floating point value. -/
theorem toBinary_mono (le : a ≤ b) :
  (integer a fits).toBinary ≤ (integer b fits').toBinary
  := by
  change Binary64.place _ ≤ Binary64.place _
  rw [place_integer, place_integer]
  rcases Int.lt_or_le a 0 with negative | nonneg
  · rw [if_pos negative]
    rcases Int.lt_or_le b 0 with negative' | nonneg'
    · rw [if_pos negative']
      have := nearestRank_mono (a := b.natAbs) (b := a.natAbs) (by omega)
      omega
    · rw [if_neg (by omega)]
      omega
  · rw [if_neg (by omega), if_neg (by omega)]
    have := nearestRank_mono (a := a.natAbs) (b := b.natAbs) (by omega)
    omega

/-- Integers whose floating point values stand at one place have the same one. -/
theorem toBinary_eq_of_place (same : (integer a fits).toBinary.place
    = (integer b fits').toBinary.place) :
  (integer a fits).toBinary = (integer b fits').toBinary
  := by
  rw [place_integer, place_integer] at same
  have positive : a < 0 → 0 < nearestRank a.natAbs 1 := fun negative =>
    nearestRank_pos (by omega)
  have positive' : b < 0 → 0 < nearestRank b.natAbs 1 := fun negative =>
    nearestRank_pos (by omega)
  simp only [toBinary_eq, Binary64.mk.injEq, decide_eq_decide]
  split at same
  · split at same
    · omega
    · omega
  · split at same
    · omega
    · omega

/-- A floating point value is less than another one exactly if the integer is, and is not rounded
to the same value. -/
theorem toBinary_lt_iff_ne :
  (integer a fits).toBinary < (integer b fits').toBinary
    ↔ a < b ∧ (integer a fits).toBinary ≠ (integer b fits').toBinary
  := by
  constructor
  · intro less
    constructor
    · by_contra notLess
      have back : (integer b fits').toBinary ≤ (integer a fits).toBinary :=
        toBinary_mono (Int.not_lt.1 notLess)
      exact absurd less (Int.not_lt.2 back)
    · intro same
      rw [same] at less
      exact absurd less (Int.lt_irrefl _)
  · rintro ⟨less, differ⟩
    have le : (integer a fits).toBinary ≤ (integer b fits').toBinary :=
      toBinary_mono (Int.le_of_lt less)
    apply Int.lt_iff_le_and_ne.2 ⟨le, ?_⟩
    intro same
    exact differ (toBinary_eq_of_place same)

end Number

end ConfigTemplate
