import ConfigTemplate.Number.Basic

/-!
# Numerals in free text

How a number is read from a text typed by hand.  A sign of either kind may stand in front, zeros
may lead, and a decimal may lack the digits on one side of its point.  An integer that fits is an
integer; every other numeral is rounded to the nearest floating point number, and one beyond the
finite range is no number.
-/

namespace ConfigTemplate.Number

/-- The value of a list of decimal digits. -/
def digitsValue (cs : List Char) : Nat :=
  cs.foldl (fun value c => 10 * value + (c.toNat - '0'.toNat)) 0

/-- A sign in front of a numeral, and the rest of it. -/
def splitSign : List Char → Bool × List Char
  | '+' :: rest => (false, rest)
  | '-' :: rest => (true, rest)
  | cs => (false, cs)

/-- A sign and decimal digits, at least one. -/
def signedInteger? (cs : List Char) : Option Int :=
  let (negative, digits) := splitSign cs
  if digits.isEmpty || !digits.all Char.isDigit then none
  else if negative then some (-(digitsValue digits : Int))
  else some (digitsValue digits)

/-- The exponent part of a decimal: nothing, or a letter and a signed integer. -/
def exponentPart? : List Char → Option Int
  | [] => some 0
  | c :: rest => if c == 'e' || c == 'E' then signedInteger? rest else none

/-- A decimal numeral without its sign. -/
def decimalNumeral? (cs : List Char) : Option Decimal :=
  let whole := cs.takeWhile Char.isDigit
  let afterWhole := cs.dropWhile Char.isDigit
  let (fraction, afterFraction) :=
    match afterWhole with
    | '.' :: rest => (rest.takeWhile Char.isDigit, rest.dropWhile Char.isDigit)
    | rest => ([], rest)
  if whole.isEmpty && fraction.isEmpty then none
  else (exponentPart? afterFraction).map fun exponent =>
    ⟨digitsValue (whole ++ fraction), exponent - fraction.length⟩

/-- The floating point number nearest to a decimal.  Powers of ten far outside the finite range
are not worked out: above ten to the 310th there is no finite number, and below ten to the
-330th the nearest one is zero. -/
def ofDecimal? (negative : Bool) (d : Decimal) : Option Binary64 :=
  let magnitude := Decimal.digitCount d.coefficient + d.exponent
  if d.coefficient = 0 || magnitude < -330 then some (.zero negative)
  else if 310 < magnitude then none
  else d.toBinary negative

/-- The number that a text denotes, if it is a numeral and the number is finite. -/
def parse? (cs : List Char) : Option Number :=
  match (signedInteger? cs).bind ofInt? with
  | some n => some n
  | none =>
    let (negative, rest) := splitSign cs
    ((decimalNumeral? rest).bind (ofDecimal? negative)).map .float

end ConfigTemplate.Number
