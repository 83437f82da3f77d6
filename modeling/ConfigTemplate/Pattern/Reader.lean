import ConfigTemplate.Pattern.Class
import ConfigTemplate.Pattern.Group

/-!
# From texts to patterns

A text is read piece by piece.  The groups that are open, each with the alternatives and pieces
read in it, are kept until their parentheses are closed.
-/

namespace ConfigTemplate.Pattern

/-- A group that is being read. -/
structure OpenGroup where
  /-- The parenthesis that opened it. -/
  opened : Span
  /-- The flags that hold again after it. -/
  outerFlags : Flags
  /-- The alternatives before the present one, the last one first. -/
  alternatives : List Pattern
  /-- The pieces of the present alternative, the last one first.  Flags count as a piece that is no
  pattern. -/
  pieces : List (Option Pattern)

namespace OpenGroup

/-- What a text is read into before any parenthesis. -/
def start : OpenGroup := ⟨⟨.start, .start⟩, .start, [], []⟩

/-- The present alternative. -/
def alternative (o : OpenGroup) : Pattern :=
  o.pieces.reverse.foldr (fun piece rest => (piece.getD .empty).andThen rest) .empty

/-- What was read so far. -/
def value (o : OpenGroup) : Pattern :=
  o.alternatives.foldl (fun rest earlier => .either earlier rest) o.alternative

/-- The group with one piece more. -/
def add (o : OpenGroup) (piece : Pattern) : OpenGroup :=
  { o with pieces := some piece :: o.pieces }

/-- The group at the start of its next alternative. -/
def nextAlternative (o : OpenGroup) : OpenGroup :=
  { o with alternatives := o.alternative :: o.alternatives, pieces := [] }

end OpenGroup

namespace Reader

/-- The pattern of one character. -/
def literal (c : Char) (byte : Bool) (span : Span) : Reader Pattern := do
  let flags ← flags
  let set := CharSet.single c
  if flags.unicode || c.toNat < 0x80 then return .char (flags.fold set)
  if byte then refuse .notText span
  return .char set

/-- The pattern of any character but those that end a line. -/
def dot (span : Span) : Reader Pattern := do
  let flags ← flags
  if !flags.unicode then refuse .notText span
  return .char <|
    if flags.dotAll then CharSet.everything
    else if flags.returns then .complement (CharSet.ofRanges [('\n', '\n'), ('\r', '\r')])
    else .complement (CharSet.single '\n')

/-- Reads one character or escape. -/
def readPiece (c : Char) : Reader Pattern := do
  let span ← ahead
  let flags ← flags
  match c with
  | '\\' =>
    let (escape, span) ← readEscape
    match escape with
    | .literal c byte => literal c byte span
    | .set s => return .char s
    | .assertion a => return .assertion a
  | '.' =>
    advance
    dot span
  | '^' =>
    advance
    return .assertion (if flags.lines then .lineStart flags.returns else .textStart)
  | '$' =>
    advance
    return .assertion (if flags.lines then .lineEnd flags.returns else .textEnd)
  | _ =>
    advance
    literal c false span

/-- The greatest number of repetitions that can be written. -/
def countLimit : Nat := 4294967295

/-- Reads a number of repetitions.  What is wrong with it is part of the result. -/
def readCount : Reader (Except Fault Nat) := do
  skipBlank
  let first ← spot
  let digits ← takeWhile Char.isDigit
  let span ← since first
  skipBlank
  let n := Text.numberOfDigits 10 digits
  if digits.isEmpty then return .error ⟨.repetitionCountMissing, span, none⟩
  else if countLimit < n then return .error ⟨.decimalInvalid, span, none⟩
  else return .ok n

/-- Reads how often a piece is repeated, from the brace on: the least number and the greatest, if
there is one. -/
def readCounts : Reader (Nat × Option Nat) := do
  let first ← spot
  advanceSkipping
  demandMore .repetitionCountUnclosed (← since first)
  let least ← readCount
  demandMore .repetitionCountUnclosed (← since first)
  let (least, most) ←
    if (← peek?) == some ',' then
      advanceSkipping
      demandMore .repetitionCountUnclosed (← since first)
      if (← peek?) == some '\x7d' then pure (← least, none)
      else
        let least ← least
        pure (least, some (← (← readCount)))
    else
      let least ← least
      pure (least, some least)
  if (← peek?) != some '\x7d' then fail .repetitionCountUnclosed (← since first)
  advanceSkipping
  let _ ← takeIf "?"
  if most.any (· < least) then fail .repetitionCountInvalid (← since first)
  return (least, most)

/-- Reads the sign that a piece is repeated, and how often it is. -/
def readRepetition (sign : Char) : Reader (Nat × Option Nat) := do
  if sign == '\x7b' then readCounts
  else
    advance
    let _ ← takeIf "?"
    return (if sign == '+' then 1 else 0, if sign == '?' then some 1 else none)

/-- Reads a repetition of the last piece of a group. -/
def repeatLast (sign : Char) (o : OpenGroup) : Reader OpenGroup := do
  match o.pieces with
  | some piece :: earlier =>
    let (least, most) ← readRepetition sign
    return { o with pieces := some (.repeated piece least most) :: earlier }
  | _ => fail .repetitionMissing (← here)

/-- Reads the rest of a group, which stands in others if `outer` is not empty.  The number bounds
the pieces that are left. -/
def readGroups : Nat → OpenGroup → List OpenGroup → Reader Pattern
  | 0, o, _ => fail .groupUnclosed o.opened
  | n + 1, o, outer => do
    skip
    match ← peek? with
    | none => if outer.isEmpty then return o.value else fail .groupUnclosed o.opened
    | some '(' =>
      let flags ← flags
      let (opening, opened) ← readOpening
      match opening with
      | .flags letters =>
        modify fun c => { c with flags := c.flags.turnAll true letters }
        readGroups n { o with pieces := none :: o.pieces } outer
      | .group letters =>
        modify fun c => { c with flags := c.flags.turnAll true letters }
        readGroups n ⟨opened, flags, [], []⟩ (o :: outer)
    | some ')' =>
      match outer with
      | [] => fail .groupUnopened (← ahead)
      | next :: outer =>
        modify fun c => { c with flags := o.outerFlags }
        advance
        readGroups n (next.add o.value) outer
    | some '|' =>
      advance
      readGroups n o.nextAlternative outer
    | some '[' => readGroups n (o.add (.char (← readClass))) outer
    | some c =>
      if ['?', '*', '+', '\x7b'].contains c then readGroups n (← repeatLast c o) outer
      else readGroups n (o.add (← readPiece c)) outer

end Reader

/-- The pattern of a text. -/
def ofText (text : String) : Except Fault Pattern := do
  let cs := text.toList
  let (pattern, cursor) ← (Reader.readGroups (cs.length + 1) .start []).run (.start cs)
  match cursor.refusal with
  | some fault => .error fault
  | none => .ok pattern

end ConfigTemplate.Pattern
