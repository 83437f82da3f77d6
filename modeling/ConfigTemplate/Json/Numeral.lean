import ConfigTemplate.Json.Fault
import ConfigTemplate.Number.Literal

/-!
# JSON numerals

A numeral is read in two steps: its parts, and the number that they denote.  An integer that fits
64 bits is kept; every other numeral becomes a floating point number by a quick rule that may miss
the nearest one by a little: the digits are gathered in a 64-bit significand while it can hold
them, the significand is rounded, and then multiplied or divided by a rounded power of ten.
-/

namespace ConfigTemplate.Json

/-- The parts of a JSON numeral.  A fraction has at least one digit; an exponent has a sign, which
may be left out, and at least one digit. -/
structure Numeral where
  negative : Bool
  whole : List Char
  fraction : Option (List Char)
  exponent : Option (Option Char × List Char)
deriving DecidableEq

namespace Numeral

/-- The number of characters of the fraction, its point included. -/
def fractionLength : Option (List Char) → Nat
  | none => 0
  | some digits => 1 + digits.length

/-- The characters of the exponent up to its digits. -/
def exponentLead : Option (Option Char × List Char) → Nat
  | none => 0
  | some (none, _) => 1
  | some (some _, _) => 2

/-- The number of characters in front of the digits of the exponent. -/
def leadLength (n : Numeral) : Nat :=
  (if n.negative then 1 else 0) + n.whole.length + fractionLength n.fraction
    + exponentLead n.exponent

/-- The digits of the exponent. -/
def exponentDigits (n : Numeral) : List Char :=
  match n.exponent with
  | none => []
  | some (_, digits) => digits

/-- The number of characters of the numeral. -/
def length (n : Numeral) : Nat := n.leadLength + n.exponentDigits.length

/-- Whether the exponent counts down. -/
def exponentNegative (n : Numeral) : Bool :=
  match n.exponent with
  | some (some '-', _) => true
  | _ => false

/-- The significand after taking in digits while they fit 64 bits, and the number of digits taken
in. -/
def gather : Nat → List Char → Nat × Nat
  | significand, [] => (significand, 0)
  | significand, c :: rest =>
    let next := 10 * significand + (c.toNat - '0'.toNat)
    if next < 0x10000000000000000 then
      let (final, count) := gather next rest
      (final, count + 1)
    else (significand, 0)

/-- The floating point power of ten, for an exponent that it has. -/
def powerOfTen (n : Nat) : Binary64 :=
  (Binary64.round false (Decimal.powerOfTen n) 1).getD (.zero false)

/-- A floating point number times a power of ten, in steps of at most 308 places.  After three
steps down nothing is left of a 64-bit significand. -/
def scale : Nat → Binary64 → Int → Option Binary64
  | 0, _, _ => some (.zero false)
  | steps + 1, x, exponent =>
    if exponent.natAbs ≤ 308 then
      if 0 ≤ exponent then x.mul (powerOfTen exponent.natAbs)
      else x.div (powerOfTen exponent.natAbs)
    else if x.isZero then some x
    else if 0 ≤ exponent then none
    else (x.div (powerOfTen 308)).bind fun smaller => scale steps smaller (exponent + 308)

/-- A number with the sign of the numeral. -/
def signed (n : Numeral) (x : Binary64) : Binary64 :=
  if n.negative then x.neg else x

/-- The exponent is beyond 31 bits. -/
def exponentOverflows (digits : List Char) : Bool :=
  0x80000000 ≤ Number.digitsValue digits

/-- The number that a numeral denotes, or the number of its characters after which it turns out
to be out of range. -/
def toNumber (n : Numeral) : Except Nat Number :=
  let (wholePart, wholeCount) := gather 0 n.whole
  match n.fraction, n.exponent with
  | none, none =>
    let value : Int := if n.negative then -(wholePart : Int) else wholePart
    let fitting : Option Number :=
      if wholeCount < n.whole.length || (n.negative && wholePart == 0) then none
      else Number.ofInt? value
    match fitting with
    | some number => .ok number
    | none =>
      let rounded := (Binary64.round false wholePart 1).getD (.zero false)
      match scale 4 rounded (n.whole.length - wholeCount : Nat) with
      | some x => .ok (.float (n.signed x))
      | none => .error n.length
  | _, _ =>
    let (significand, fractionCount) := gather wholePart (n.fraction.getD [])
    let start : Int := (n.whole.length - wholeCount : Nat) - (fractionCount : Int)
    let digits := n.exponentDigits
    if exponentOverflows digits then
      if significand == 0 || n.exponentNegative then .ok (.float (n.signed (.zero false)))
      else
        let noticed := (List.range digits.length).find? fun k => exponentOverflows (digits.take k)
        .error (n.leadLength + noticed.getD digits.length)
    else
      let shift := Number.digitsValue digits
      let exponent : Int := if n.exponentNegative then start - shift else start + shift
      let rounded := (Binary64.round false significand 1).getD (.zero false)
      match scale 4 rounded exponent with
      | some x => .ok (.float (n.signed x))
      | none => .error n.length

/-- The sign in front of an exponent, if there is one, and what follows it. -/
def splitSign : List Char → Option Char × List Char
  | [] => (none, [])
  | c :: rest => if c == '+' || c == '-' then (some c, rest) else (none, c :: rest)

/-- Reads the exponent part of a numeral, if there is one. -/
def readExponent (p : Position) (cs : List Char) :
    Except Fault (Option (Option Char × List Char)) :=
  match cs with
  | c :: rest =>
    if c == 'e' || c == 'E' then
      let (sign, rest) := splitSign rest
      let p := (p.after c).afterAll sign.toList
      match rest with
      | [] => .error ⟨.endInValue, p⟩
      | d :: _ =>
        if d.isDigit then .ok (some (sign, rest.takeWhile Char.isDigit))
        else .error ⟨.invalidNumber, p.afterByte d⟩
    else .ok none
  | [] => .ok none

/-- Reads the fraction of a numeral, if there is one. -/
def readFraction (p : Position) (cs : List Char) : Except Fault (Option (List Char)) :=
  match cs with
  | '.' :: rest =>
    let p := p.after '.'
    match rest with
    | [] => .error ⟨.endInValue, p⟩
    | d :: _ =>
      if d.isDigit then .ok (some (rest.takeWhile Char.isDigit))
      else .error ⟨.invalidNumber, p.afterByte d⟩
  | _ => .ok none

/-- Reads the whole part of a numeral: one zero, or digits of which the first is not zero. -/
def readWhole (p : Position) (cs : List Char) : Except Fault (List Char) :=
  match cs with
  | [] => .error ⟨.endInValue, p⟩
  | '0' :: rest =>
    match rest with
    | d :: _ =>
      if d.isDigit then .error ⟨.invalidNumber, (p.after '0').afterByte d⟩ else .ok ['0']
    | [] => .ok ['0']
  | d :: _ =>
    if d.isDigit then .ok (cs.takeWhile Char.isDigit)
    else .error ⟨.invalidNumber, p.afterByte d⟩

/-- A minus sign in front of a numeral, and what follows it. -/
def splitMinus : List Char → Bool × List Char
  | '-' :: rest => (true, rest)
  | cs => (false, cs)

/-- Reads a numeral at the front of a text. -/
def read (p : Position) (cs : List Char) : Except Fault Numeral := do
  let (negative, unsigned) := splitMinus cs
  let p := if negative then p.after '-' else p
  let whole ← readWhole p unsigned
  let p := p.afterAll whole
  let afterWhole := unsigned.drop whole.length
  let fraction ← readFraction p afterWhole
  let p : Position := ⟨p.line, p.column + fractionLength fraction⟩
  let exponent ← readExponent p (afterWhole.drop (fractionLength fraction))
  return ⟨negative, whole, fraction, exponent⟩

end Numeral

end ConfigTemplate.Json
