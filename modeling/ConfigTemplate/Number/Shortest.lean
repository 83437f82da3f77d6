import ConfigTemplate.Number.Binary64

/-!
# Shortest decimals

A binary number is written with the fewest decimal digits that read back as the same number.  For
each count of digits only the two decimals next to the number can be the nearest ones, so the
search tries these two for one digit, two digits and so on; of two that read back, the nearer is
taken.
-/

namespace ConfigTemplate

/-- The number `coefficient * 10 ^ exponent`. -/
structure Decimal where
  coefficient : Nat
  exponent : Int
deriving DecidableEq

namespace Decimal

/-- A power of ten. -/
def powerOfTen (n : Nat) : Nat := Nat.pow 10 n

/-- The numerator of the value as a fraction. -/
def num (d : Decimal) : Nat := d.coefficient * powerOfTen d.exponent.toNat

/-- The denominator of the value as a fraction. -/
def den (d : Decimal) : Nat := powerOfTen (-d.exponent).toNat

/-- The binary number nearest to the decimal. -/
def toBinary (negative : Bool) (d : Decimal) : Option Binary64 :=
  Binary64.round negative d.num d.den

/-- The number of decimal digits. -/
def digitCount (n : Nat) : Nat := (Nat.toDigits 10 n).length

/-- The exponent of the first digit of a positive fraction. -/
def leadingExponent (num den : Nat) : Int :=
  if den ≤ num then (digitCount (num / den) : Int) - 1
  else
    let count := digitCount (den / num)
    if den ≤ num * powerOfTen (count - 1) then 1 - (count : Int) else -(count : Int)

/-- The decimal of the given last place next below a positive fraction, and the remainder to it
as a fraction of that place. -/
def below (num den : Nat) (place : Int) : Decimal × Nat × Nat :=
  let scaled := num * powerOfTen (-place).toNat
  let unit := den * powerOfTen place.toNat
  (⟨scaled / unit, place⟩, scaled % unit, unit)

/-- Of the two decimals of the given last place next to `x`, the nearest that reads back. -/
def neighbour? (x : Binary64) (place : Int) : Option Decimal :=
  let (low, remainder, unit) := below x.units Binary64.unitsInOne place
  let high : Decimal := ⟨low.coefficient + 1, place⟩
  let readsBack (d : Decimal) : Bool := d.toBinary x.negative == some x
  let lowFirst : Bool :=
    2 * remainder < unit || (2 * remainder == unit && low.coefficient % 2 == 0)
  (if lowFirst then [low, high] else [high, low]).find? readsBack

/-- A decimal with the fewest digits that reads back as the nonzero number `x`; seventeen digits
are always enough. -/
def shortest (x : Binary64) : Decimal :=
  let leading := leadingExponent x.units Binary64.unitsInOne
  ((List.range 17).findSome? fun n : Nat => neighbour? x (leading - n)).getD
    (below x.units Binary64.unitsInOne (leading - 16)).1

/-- The significant digits, without zeros at the end. -/
def digits (d : Decimal) : List Char :=
  ((Nat.toDigits 10 d.coefficient).reverse.dropWhile (· == '0')).reverse

/-- The exponent of the first digit. -/
def scientificExponent (d : Decimal) : Int :=
  d.exponent + digitCount d.coefficient - 1

end Decimal

end ConfigTemplate
