import ConfigTemplate.Number.Shortest

/-!
# Numbers

A number is an integer of at most 64 bits, signed or unsigned, or a finite binary64 number.  The
two kinds are kept apart: `2` and `2.0` are different numbers with different texts.
-/

namespace ConfigTemplate

/-- An integer from `-2 ^ 63` to `2 ^ 64 - 1`, or a finite floating point number. -/
inductive Number where
  | integer (value : Int) (fits : -0x8000000000000000 ≤ value ∧ value < 0x10000000000000000)
  | float (value : Binary64)
deriving DecidableEq

/-- How the exponents divide between the two notations of a floating point number. -/
structure FloatLayout where
  /-- The least exponent of the first digit that is written without an exponent part. -/
  plainFrom : Int
  /-- The greatest such exponent. -/
  plainTo : Int

namespace Number

instance : Inhabited Number := ⟨.integer 0 (by decide)⟩

/-- The number of an integer, if it is in range. -/
def ofInt? (value : Int) : Option Number :=
  if h : -0x8000000000000000 ≤ value ∧ value < 0x10000000000000000 then some (.integer value h)
  else none

/-- The number of the integer in range that is closest to a given one. -/
def closest (value : Int) : Number :=
  .integer (max (-0x8000000000000000) (min value 0xffffffffffffffff)) (by omega)

/-- The value as an integer, for the numbers of the integer kind. -/
def toInt? : Number → Option Int
  | .integer value _ => some value
  | .float _ => none

/-- The value as an unsigned 64-bit integer. -/
def toUnsigned? (n : Number) : Option Nat :=
  match n.toInt? with
  | some value => if 0 ≤ value then some value.toNat else none
  | none => none

/-- The value as a signed 64-bit integer. -/
def toSigned? (n : Number) : Option Int :=
  match n.toInt? with
  | some value => if value < 0x8000000000000000 then some value else none
  | none => none

/-- The value as a floating point number, an integer being rounded to the nearest. -/
def toBinary : Number → Binary64
  | .integer value _ => (Binary64.ofInt? value).getD (Binary64.zero false)
  | .float value => value

/-- From `0.00001` to below ten to the sixteenth a number is written without an exponent. -/
def layout : FloatLayout := ⟨-5, 15⟩

/-- The decimal text of an integer. -/
def integerChars (value : Int) : List Char :=
  if value < 0 then '-' :: Nat.toDigits 10 value.natAbs else Nat.toDigits 10 value.natAbs

/-- The decimal text of an integer as a string. -/
def integerText (value : Int) : String := String.ofList (integerChars value)

/-- Digits with the point where the exponent of the first digit puts it, and a digit on either
side of it. -/
def plainChars (digits : List Char) (exponent : Int) : List Char :=
  if exponent < 0 then
    '0' :: '.' :: (List.replicate (exponent.natAbs - 1) '0' ++ digits)
  else
    let whole := exponent.toNat + 1
    if digits.length ≤ whole then
      digits ++ List.replicate (whole - digits.length) '0' ++ ['.', '0']
    else
      digits.take whole ++ '.' :: digits.drop whole

/-- Digits with the point after the first one, followed by the signed exponent. -/
def scientificChars (digits : List Char) (exponent : Int) : List Char :=
  let mantissa :=
    match digits with
    | [] => []
    | [d] => [d]
    | d :: rest => d :: '.' :: rest
  mantissa ++ 'e' :: (if exponent < 0 then '-' else '+') :: Nat.toDigits 10 exponent.natAbs

/-- The text of a floating point number: the fewest digits that read back, in the notation that
the layout gives to their exponent. -/
def floatChars (x : Binary64) : List Char :=
  let magnitude :=
    if x.isZero then ['0', '.', '0']
    else
      let decimal := Decimal.shortest x
      let exponent := decimal.scientificExponent
      if layout.plainFrom ≤ exponent && exponent ≤ layout.plainTo then
        plainChars decimal.digits exponent
      else
        scientificChars decimal.digits exponent
  if x.negative then '-' :: magnitude else magnitude

/-- The text of a number. -/
def chars : Number → List Char
  | .integer value _ => integerChars value
  | .float value => floatChars value

/-- The text of a number as a string. -/
def text (n : Number) : String := String.ofList n.chars

end Number

end ConfigTemplate
