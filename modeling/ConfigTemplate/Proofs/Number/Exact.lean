import ConfigTemplate.Proofs.Number.Rounding

/-!
# Integers that are exact as floating point numbers

The integers of magnitude at most `2 ^ 53` are floating point numbers.  So different integers have
the same floating point value only if both are at least as large as that and close to each other,
`near_of_toBinary_eq`, and the floating point values of small integers are in the order of the
integers themselves.
-/

namespace ConfigTemplate

namespace Binary64

/-! ### Ranks of small integers -/

/-- A small integer scaled to the size of a significand stays an integer. -/
theorem two_pow_log2_dvd {n : Nat} (pos : 0 < n) (small : n ≤ 2 ^ 53) :
  2 ^ Nat.log2 n ∣ n * 2 ^ 52
  := by
  by_cases below : Nat.log2 n ≤ 52
  · exact Nat.dvd_mul_left_of_dvd (Nat.pow_dvd_pow 2 below) n
  · have power : 2 ^ 53 ≤ n := (Nat.le_log2 (Nat.ne_of_gt pos)).1 (Nat.lt_of_not_le below)
    obtain rfl : n = 2 ^ 53 := Nat.le_antisymm small power
    rw [Nat.log2_two_pow]
    apply Nat.dvd_mul_right

/-- The significand of a small integer is exact. -/
theorem leading_mul {n : Nat} (pos : 0 < n) (small : n ≤ 2 ^ 53) :
  leading n * 2 ^ Nat.log2 n = n * 2 ^ 52
  := by
  obtain ⟨q, scaled⟩ := two_pow_log2_dvd pos small
  rw [leading, scaled, Nat.mul_comm _ q, roundQuotient_mul q (Nat.two_pow_pos _)]

/-- Ranks of small integers are in the order of the integers. -/
theorem nearestRank_lt {a b : Nat} (less : a < b) (small : b ≤ 2 ^ 53) :
  nearestRank a 1 < nearestRank b 1
  := by
  have pos' : 0 < b := Nat.zero_lt_of_lt less
  rcases Nat.eq_zero_or_pos a with rfl | pos
  · exact nearestRank_pos pos'
  · apply Nat.lt_of_le_of_ne (nearestRank_mono (Nat.le_of_lt less))
    intro same
    have scaled := leading_mul_eq pos (Nat.le_of_lt less) same
    rw [leading_mul pos (by omega), leading_mul pos' small] at scaled
    omega

/-- Different integers of one rank are beyond `2 ^ 53`, and not far apart. -/
theorem near_of_nearestRank_eq {a b : Nat} (less : a < b) (bounded : b < 2 ^ 64)
    (same : nearestRank a 1 = nearestRank b 1) :
  2 ^ 53 ≤ a ∧ b ≤ a + 2 ^ 11
  := by
  have large : 2 ^ 53 ≤ a := by
    by_contra small
    have := nearestRank_lt (Nat.lt_succ_self a) (by omega)
    have := nearestRank_mono (Nat.succ_le_of_lt less)
    omega
  have pos : 0 < a := by omega
  have pos' : 0 < b := by omega
  have scale : 2 ^ Nat.log2 b ≤ 2 ^ 63 := by
    apply Nat.pow_le_pow_right (by decide)
    exact Nat.le_of_lt_succ ((Nat.log2_lt (Nat.ne_of_gt pos')).2 bounded)
  have scale' : 2 ^ Nat.log2 a ≤ 2 ^ Nat.log2 b :=
    Nat.pow_le_pow_right (by decide) (log2_mono pos (Nat.le_of_lt less))
  have multiple := leading_mul_eq pos (Nat.le_of_lt less) same
  have below := (roundQuotient_near (b * 2 ^ 52) (Nat.two_pow_pos (Nat.log2 b))).1
  have above := (roundQuotient_near (a * 2 ^ 52) (Nat.two_pow_pos (Nat.log2 a))).2
  rw [← leading] at below above
  exact ⟨large, by omega⟩

end Binary64

namespace Number

variable {a b : Int} {fits : -0x8000000000000000 ≤ a ∧ a < 0x10000000000000000}
  {fits' : -0x8000000000000000 ≤ b ∧ b < 0x10000000000000000}

/-! ### The order of small integers -/

/-- Both integers are so large, and the second one is so little greater than the first one, that
rounding may make them the same. -/
structure Near (a b : Int) : Prop where
  large : 2 ^ 53 ≤ a.natAbs
  large' : 2 ^ 53 ≤ b.natAbs
  close : b ≤ a + 2 ^ 11

/-- Different integers of one floating point value are large and close to each other. -/
theorem near_of_toBinary_eq (less : a < b)
    (same : (integer a fits).toBinary = (integer b fits').toBinary) :
  Near a b
  := by
  simp only [toBinary_eq, Binary64.mk.injEq, decide_eq_decide] at same
  obtain ⟨signs, ranks⟩ := same
  rcases Int.lt_or_le a 0 with negative | nonneg
  · obtain ⟨large, close⟩ := Binary64.near_of_nearestRank_eq (by omega) (by omega) ranks.symm
    exact ⟨by omega, by omega, by omega⟩
  · obtain ⟨large, close⟩ := Binary64.near_of_nearestRank_eq (by omega) (by omega) ranks
    exact ⟨by omega, by omega, by omega⟩

/-- The floating point values of small integers are in the order of the integers. -/
theorem toBinary_lt_iff (small : a.natAbs ≤ 2 ^ 53) (small' : b.natAbs ≤ 2 ^ 53) :
  (integer a fits).toBinary < (integer b fits').toBinary ↔ a < b
  := by
  rw [toBinary_lt_iff_ne, and_iff_left_iff_imp]
  intro less same
  obtain ⟨large, large', close⟩ := near_of_toBinary_eq less same
  omega

theorem toBinary_le_iff (small : a.natAbs ≤ 2 ^ 53) (small' : b.natAbs ≤ 2 ^ 53) :
  (integer a fits).toBinary ≤ (integer b fits').toBinary ↔ a ≤ b
  := by
  rw [← Int.not_lt, ← toBinary_lt_iff small' small]
  exact Int.not_lt.symm

theorem toBinary_zero :
  (integer 0 (by decide)).toBinary = .zero false
  := by
  decide +kernel

end Number

end ConfigTemplate
