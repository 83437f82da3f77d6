import ConfigTemplate.Pattern.Basic
import ConfigTemplate.Pattern.Cursor
import ConfigTemplate.Text.Basic

/-!
# Escapes

What a backslash and the characters after it stand for: a character, a set of characters, or a
condition on a place.
-/

namespace ConfigTemplate.Pattern

namespace Flags

/-- A set as it is meant without regard to case, if case does not count. -/
def fold (f : Flags) (set : CharSet) : CharSet :=
  if !f.caseless then set
  else if f.unicode then .caseless set
  else .intersection CharSet.ascii (.caseless set)

/-- The characters that words consist of. -/
def word (f : Flags) : CharSet := if f.unicode then .having .word else CharSet.asciiWord

end Flags

/-- What an escape stands for. -/
inductive Escape where
  /-- A character; `byte` tells whether it was given as the number of a byte. -/
  | literal (c : Char) (byte : Bool)
  | set (s : CharSet)
  | assertion (a : Assertion)

namespace Reader

/-- A set, or all that is not in it.  The latter is refused where only ASCII is meant. -/
def negated (isNegated : Bool) (set : CharSet) (span : Span) : Reader CharSet := do
  if isNegated && !(← flags).unicode then refuse .notText span
  return CharSet.negatedIf isNegated set

/-- Takes the given number of hexadecimal digits. -/
def takeHexDigits : Nat → Reader (List Char)
  | 0 => return []
  | n + 1 => do
    match ← peek? with
    | none => fail .escapeUnfinished (← here)
    | some c =>
      if Text.isHexDigit c then
        advanceSkipping
        return c :: (← takeHexDigits n)
      else fail .escapeHexInvalidDigit (← ahead)

/-- The character whose number is given by digits. -/
def numbered (digits : List Char) (span : Span) : Reader Char :=
  match Text.charOfNumber? (Text.numberOfDigits 16 digits) with
  | some c => return c
  | none => fail .escapeHexInvalid span

/-- Reads the number of a character in braces. -/
def readBracedNumber : Reader Char := do
  let brace ← spot
  let first := (← ahead).past
  advanceSkipping
  let digits ← takeWhile Text.isHexDigit
  match ← peek? with
  | none => fail .escapeUnfinished (← since brace)
  | some '\x7d' =>
    let span ← since first
    advanceSkipping
    if digits.isEmpty then fail .escapeHexEmpty (← since brace)
    numbered digits span
  | some _ => fail .escapeHexInvalidDigit (← ahead)

/-- Reads the number of a character after its letter, which tells how many digits there are
without braces. -/
def readNumber (letter : Char) : Reader Escape := do
  advanceSkipping
  match ← peek? with
  | none => fail .escapeUnfinished (← here)
  | some '\x7b' => return .literal (← readBracedNumber) false
  | some _ =>
    let first ← spot
    let digits ← takeHexDigits (if letter == 'x' then 2 else if letter == 'u' then 4 else 8)
    return .literal (← numbered digits (← since first)) (letter == 'x')

/-- Reads the name of a property after its letter: one character, or what stands in braces. -/
def readPropertyName : Reader String := do
  advanceSkipping
  match ← peek? with
  | none => fail .escapeUnfinished (← here)
  | some '\x7b' =>
    advanceSkipping
    let name ← takeWhile (· != '\x7d')
    if (← peek?).isNone then fail .escapeUnfinished (← here)
    advance
    return String.ofList name
  | some '\\' => fail .propertyInvalid (← ahead)
  | some c =>
    advanceSkipping
    return c.toString

/-- Reads a property; `first` is where its escape begins. -/
def readProperty (first : Spot) (isNegated : Bool) : Reader CharSet := do
  let name ← readPropertyName
  let span ← since first
  let flags ← flags
  if !flags.unicode then
    refuse .propertyNotAllowed span
    return .nothing
  match CharSet.named? name with
  | some set => return CharSet.negatedIf isNegated (flags.fold set)
  | none =>
    refuse .propertyUnknown span
    return .nothing

/-- A class that a letter stands for: digits, blank characters, or the characters of words. -/
def readLetterClass (first : Spot) (letter : Char) : Reader CharSet := do
  advance
  let flags ← flags
  let set :=
    match letter.toLower with
    | 'd' => if flags.unicode then .having .decimal else CharSet.asciiDigit
    | 's' => if flags.unicode then .having .blank else CharSet.asciiBlank
    | _ => flags.word
  negated letter.isUpper set (← since first)

/-- A character of the name of an edge of words. -/
def isEdgeNamePart (c : Char) : Bool := c.isAlpha || c == '-'

/-- Reads the name of an edge of words in braces.  If no name stands there, the brace is left for
a number of repetitions. -/
def readEdgeName (first : Spot) : Reader (Option (CharSet → Assertion)) := do
  let start ← get
  advanceSkipping
  match ← peek? with
  | none => fail .wordEdgeUnfinished (← since first)
  | some c =>
    if isEdgeNamePart c then
      let nameStart ← spot
      let name ← takeWhile isEdgeNamePart
      if (← peek?) != some '\x7d' then fail .wordEdgeUnclosed (← since start.spot)
      let span ← since nameStart
      advance
      match String.ofList name with
      | "start" => return some .wordStart
      | "end" => return some .wordEnd
      | "start-half" => return some .notAfter
      | "end-half" => return some .notBefore
      | _ => fail .wordEdgeUnknown span
    else
      set start
      return none

/-- Reads an edge of words after its letter. -/
def readEdge (first : Spot) : Reader Assertion := do
  let word := (← flags).word
  if (← peek?) == some '\x7b' then
    return ((← readEdgeName first).getD .edge) word
  else return .edge word

/-- What an escape of one letter stands for, after it was read. -/
def letterEscape (first : Spot) (letter : Char) : Reader Escape := do
  let span ← since first
  let word := (← flags).word
  match letter with
  | 'a' => return .literal '\x07' false
  | 'f' => return .literal '\x0c' false
  | 't' => return .literal '\t' false
  | 'n' => return .literal '\n' false
  | 'r' => return .literal '\r' false
  | 'v' => return .literal '\x0b' false
  | 'A' => return .assertion .textStart
  | 'z' => return .assertion .textEnd
  | 'b' => return .assertion (← readEdge first)
  | 'B' => return .assertion (.noEdge word)
  | '<' => return .assertion (.wordStart word)
  | '>' => return .assertion (.wordEnd word)
  | c =>
    if c.toNat < 0x80 && !c.isAlphanum then return .literal c false
    else fail .escapeUnknown span

/-- Reads an escape from its backslash on, together with the piece of the text that it takes. -/
def readEscape : Reader (Escape × Span) := do
  let first ← spot
  advance
  match ← peek? with
  | none => fail .escapeUnfinished (← since first)
  | some c =>
    if c.isDigit then fail .backreference ⟨first, (← ahead).past⟩
    let escape ←
      if c == 'x' || c == 'u' || c == 'U' then readNumber c
      else if c == 'p' || c == 'P' then pure (.set (← readProperty first (c == 'P')))
      else if ['d', 's', 'w'].contains c.toLower then pure (.set (← readLetterClass first c))
      else
        advance
        letterEscape first c
    return (escape, ← since first)

end Reader

end ConfigTemplate.Pattern
