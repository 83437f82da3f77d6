import ConfigTemplate.Pattern.Escape

/-!
# Sets of characters in brackets

A set in brackets is the union of its items: characters, ranges, escapes, named classes, and sets
in brackets of their own.  Unions are joined by operators, all of one rank and read from left to
right.
-/

namespace ConfigTemplate.Pattern

/-- A set in brackets that is being read. -/
structure OpenClass where
  /-- The bracket that opened it, with what stands directly behind. -/
  opened : Span
  isNegated : Bool
  /-- The operator that the items are on the right of, with what is on its left. -/
  pending : Option ((CharSet → CharSet → CharSet) × CharSet)
  items : CharSet

namespace OpenClass

/-- The set with one item more. -/
def add (o : OpenClass) (item : CharSet) : OpenClass := { o with items := .union o.items item }

/-- What was read so far. -/
def value (o : OpenClass) (flags : Flags) : CharSet :=
  match o.pending with
  | none => o.items
  | some (operator, left) => operator (flags.fold left) (flags.fold o.items)

end OpenClass

namespace Reader

/-- Ends the reading at the end of the text. -/
def demandMore (cause : Cause) (span : Span) : Reader Unit := do
  if (← peek?).isNone then fail cause span

/-- Reads what opens a set in brackets: the bracket, the sign of negation, and the characters that
stand for themselves only there. -/
def openClass : Reader OpenClass := do
  let first ← spot
  advanceSkipping
  demandMore .classUnclosed (← since first)
  let isNegated := (← peek?) == some '^'
  if isNegated then
    advanceSkipping
    demandMore .classUnclosed (← since first)
  let dashes ← takeWhile (· == '-')
  demandMore .classUnclosed ⟨first, first⟩
  let bracket := dashes.isEmpty && (← peek?) == some ']'
  if bracket then
    advanceSkipping
    demandMore .classUnclosed (← since first)
  let items :=
    if bracket then CharSet.single ']'
    else if dashes.isEmpty then .nothing
    else CharSet.single '-'
  return ⟨← since first, isNegated, none, items⟩

/-- The set of an item that is complete: without regard to case if case does not count, and
perhaps negated. -/
def finishClass (isNegated : Bool) (set : CharSet) (span : Span) : Reader CharSet := do
  negated isNegated ((← flags).fold set) span

/-- Reads a class that is given by its name. -/
def readNamedClass : Reader (Option CharSet) := do
  let start ← get
  if ← takeIf "[:" then
    let isNegated ← takeIf "^"
    let name := String.ofList ((← get).rest.takeWhile (· != ':'))
    if ← takeIf (name ++ ":]") then
      if let some set := CharSet.asciiClass? name then
        return some (← finishClass isNegated set (← since start.spot))
  set start
  return none

/-- Reads one item that is no set in brackets. -/
def readItem : Reader (Escape × Span) := do
  match ← peek? with
  | some '\\' => readEscape
  | some c =>
    let span ← ahead
    advance
    return (.literal c false, span)
  | none => fail .classUnclosed (← here)

/-- Refuses a character that is none of ASCII where only those are meant. -/
def checkLiteral (c : Char) (byte : Bool) (span : Span) : Reader Unit := do
  if !(← flags).unicode && 0x80 ≤ c.toNat then
    refuse (if byte then .notText else .propertyNotAllowed) span

/-- The set of an item. -/
def itemSet (item : Escape) (span : Span) : Reader CharSet := do
  match item with
  | .literal c byte =>
    checkLiteral c byte span
    return CharSet.single c
  | .set s => return s
  | .assertion _ => fail .classEscapeInvalid span

/-- The character of an item that bounds a range. -/
def boundary (item : Escape) (span : Span) : Reader (Char × Bool) :=
  match item with
  | .literal c byte => return (c, byte)
  | _ => fail .classRangeNotLiteral span

/-- The character after the next one that counts. -/
def secondNext? : Reader (Option Char) := do
  let c ← get
  let rest := c.rest.drop 1
  if c.flags.spaced then
    match rest.dropWhile Text.isBlank with
    | '#' :: comment => return (comment.dropWhile Text.isBlank).head?
    | rest => return rest.head?
  else return rest.head?

/-- Reads one item, or a range; `opened` is what opened the set. -/
def readRange (opened : Span) : Reader CharSet := do
  let (item, span) ← readItem
  skip
  demandMore .classUnclosed opened
  let second ← secondNext?
  if (← peek?) != some '-' || second == some ']' || second == some '-' then itemSet item span
  else
    advanceSkipping
    demandMore .classUnclosed opened
    let (last, lastSpan) ← readItem
    let (a, aByte) ← boundary item span
    let (b, bByte) ← boundary last lastSpan
    if b < a then fail .classRangeInvalid ⟨span.first, lastSpan.past⟩
    checkLiteral a aByte span
    checkLiteral b bByte lastSpan
    return .range a b

/-- Takes an operator, if one stands next. -/
def takeOperator : Reader (Option (CharSet → CharSet → CharSet)) := do
  if ← takeIf "&&" then return some .intersection
  else if ← takeIf "--" then return some CharSet.difference
  else if ← takeIf "~~" then return some CharSet.symmetricDifference
  else return none

/-- Reads the rest of a set in brackets, which stands in others if `outer` is not empty.  The
number bounds the items that are left. -/
def readItems : Nat → OpenClass → List OpenClass → Reader CharSet
  | 0, o, _ => fail .classUnclosed o.opened
  | n + 1, o, outer => do
    skip
    match ← peek? with
    | none => fail .classUnclosed o.opened
    | some '[' =>
      match ← readNamedClass with
      | some set => readItems n (o.add set) outer
      | none => readItems n (← openClass) (o :: outer)
    | some ']' =>
      advance
      let set ← finishClass o.isNegated (o.value (← flags)) (← since o.opened.first)
      match outer with
      | [] => return set
      | next :: outer => readItems n (next.add set) outer
    | some _ =>
      match ← takeOperator with
      | some operator =>
        let left := o.value (← flags)
        readItems n { o with pending := some (operator, left), items := .nothing } outer
      | none => readItems n (o.add (← readRange o.opened)) outer

/-- Reads a set in brackets. -/
def readClass : Reader CharSet := do
  let o ← openClass
  readItems ((← get).rest.length + 1) o []

end Reader

end ConfigTemplate.Pattern
