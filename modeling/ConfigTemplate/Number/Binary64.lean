/-!
# Finite binary floating point

The finite numbers of the binary64 format.  The magnitudes, from zero up, are numbered in
increasing order, and a number is given by its sign and the rank of its magnitude.  So the order
of two numbers is the order of two integers, and no two terms stand for the same number, the two
zeros apart.  Arithmetic is exact on fractions of natural numbers and rounds once at the end, to
the nearest number, and from the middle to the one of even rank.
-/

namespace ConfigTemplate

/-- A finite binary64 number: its sign and the rank of its magnitude. -/
structure Binary64 where
  negative : Bool
  rank : Nat
  finite : rank < 2047 <<< 52
deriving DecidableEq

namespace Binary64

/-- Zero, with either sign. -/
def zero (negative : Bool) : Binary64 := ⟨negative, 0, by decide⟩

instance : Inhabited Binary64 := ⟨zero false⟩

/-- The number of units in one, where a unit is the least positive magnitude. -/
def unitsInOne : Nat := 1 <<< 1074

/-- The quotient rounded to the nearest integer, and from the middle to the even one. -/
def roundQuotient (num den : Nat) : Nat :=
  let quotient := num / den
  let remainder := num % den
  if 2 * remainder < den then quotient
  else if den < 2 * remainder then quotient + 1
  else if quotient % 2 = 0 then quotient
  else quotient + 1

/-- The rank nearest to the fraction `num / den`.  All numbers are multiples of the unit; from the
fifty-third bit on, `shift` lower bits are rounded away. -/
def nearestRank (num den : Nat) : Nat :=
  let units := num * unitsInOne
  let shift := Nat.log2 (units / den) - 52
  (shift <<< 52) + roundQuotient units (den <<< shift)

/-- The number nearest to a fraction, unless that is beyond the finite ones. -/
def round (negative : Bool) (num den : Nat) : Option Binary64 :=
  if h : nearestRank num den < 2047 <<< 52 then some ⟨negative, nearestRank num den, h⟩
  else none

/-- The number nearest to an integer. -/
def ofInt? (n : Int) : Option Binary64 :=
  round (n < 0) n.natAbs 1

/-- The exponent field: 0 for the subnormal numbers. -/
def field (x : Binary64) : Nat := x.rank >>> 52

/-- The integer that a power of two scales to the magnitude. -/
def significand (x : Binary64) : Nat :=
  if x.field = 0 then x.rank else x.rank % (1 <<< 52) + (1 <<< 52)

/-- The magnitude in units. -/
def units (x : Binary64) : Nat :=
  x.significand <<< (x.field - 1)

/-- Whether the number is one of the two zeros. -/
def isZero (x : Binary64) : Bool := x.rank == 0

/-- The other sign. -/
def neg (x : Binary64) : Binary64 := { x with negative := !x.negative }

/-- The place of the number in the order; both zeros are at 0. -/
def place (x : Binary64) : Int :=
  if x.negative then -x.rank else x.rank

instance : LT Binary64 := ⟨fun x y => x.place < y.place⟩
instance : LE Binary64 := ⟨fun x y => x.place ≤ y.place⟩

instance (x y : Binary64) : Decidable (x < y) := inferInstanceAs (Decidable (x.place < y.place))
instance (x y : Binary64) : Decidable (x ≤ y) := inferInstanceAs (Decidable (x.place ≤ y.place))

/-- The rounded product. -/
def mul (x y : Binary64) : Option Binary64 :=
  round (x.negative != y.negative) (x.units * y.units) (unitsInOne * unitsInOne)

/-- The rounded quotient of a number and one that is not zero. -/
def div (x y : Binary64) : Option Binary64 :=
  round (x.negative != y.negative) x.units y.units

end Binary64

end ConfigTemplate
