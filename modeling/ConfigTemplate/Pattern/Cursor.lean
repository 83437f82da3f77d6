import ConfigTemplate.Pattern.CharSet
import ConfigTemplate.Pattern.Fault

/-!
# Reading the text of a pattern

A reader goes through the text with a cursor.  Flags in the text change how the rest is read: one
of them lets blank characters and comments be passed over.  A fault ends the reading at once; a
refusal, which says that a pattern was understood and is not allowed, waits for the end of the
text, and the first one counts.
-/

namespace ConfigTemplate.Pattern

/-- How a piece of a pattern is meant. -/
structure Flags where
  caseless : Bool
  /-- The start and the end of a line are meant where otherwise those of the text are. -/
  lines : Bool
  /-- The character that stands for any other stands for the end of a line as well. -/
  dotAll : Bool
  /-- A carriage return ends a line, too. -/
  returns : Bool
  /-- Properties of all characters are meant, not of those of ASCII only. -/
  unicode : Bool
  /-- Blank characters and comments do not count. -/
  spaced : Bool
deriving DecidableEq

namespace Flags

/-- The flags at the start of a text. -/
def start : Flags := ⟨false, false, false, false, true, false⟩

/-- The letters of flags, one of which changes nothing about what a pattern describes. -/
def letters : List Char := ['i', 'm', 's', 'U', 'u', 'R', 'x']

/-- The flags with one of them turned on or off. -/
def turn (f : Flags) (letter : Char) (on : Bool) : Flags :=
  match letter with
  | 'i' => { f with caseless := on }
  | 'm' => { f with lines := on }
  | 's' => { f with dotAll := on }
  | 'R' => { f with returns := on }
  | 'u' => { f with unicode := on }
  | 'x' => { f with spaced := on }
  | _ => f

/-- The flags after a list of letters; those behind a minus sign are turned off. -/
def turnAll (f : Flags) (on : Bool) : List Char → Flags
  | [] => f
  | letter :: rest =>
    if letter == '-' then f.turnAll false rest else (f.turn letter on).turnAll on rest

end Flags

/-- Where a reader is in a text, and what it has to remember. -/
structure Cursor where
  spot : Spot
  rest : List Char
  flags : Flags
  /-- The names of groups that were read, and where. -/
  names : List (String × Span)
  refusal : Option Fault

namespace Cursor

/-- The start of a text. -/
def start (text : List Char) : Cursor := ⟨.start, text, .start, [], none⟩

/-- The cursor after one character more. -/
def next (c : Cursor) : Cursor :=
  match c.rest with
  | [] => c
  | x :: rest => { c with spot := c.spot.after x, rest }

/-- The place after blank characters and comments, and the rest of the text from there. -/
def pastBlank (inComment : Bool) (spot : Spot) : List Char → Spot × List Char
  | [] => (spot, [])
  | c :: rest =>
    if inComment then pastBlank (c != '\n') (spot.after c) rest
    else if Text.isBlank c then pastBlank false (spot.after c) rest
    else if c == '#' then pastBlank true (spot.after c) rest
    else (spot, c :: rest)

/-- The cursor after what does not count. -/
def skip (c : Cursor) : Cursor :=
  if c.flags.spaced then
    let (spot, rest) := pastBlank false c.spot c.rest
    { c with spot, rest }
  else c

end Cursor

/-- A reader of a piece of a text. -/
abbrev Reader := StateT Cursor (Except Fault)

namespace Reader

/-- The next character. -/
def peek? : Reader (Option Char) := return (← get).rest.head?

/-- Where the reader is. -/
def spot : Reader Spot := return (← get).spot

/-- The flags that hold. -/
def flags : Reader Flags := return (← get).flags

/-- The piece from a place up to the reader. -/
def since (first : Spot) : Reader Span := return ⟨first, ← spot⟩

/-- The empty piece at the reader. -/
def here : Reader Span := do since (← spot)

/-- The next character as a piece. -/
def ahead : Reader Span := do
  let c ← get
  return ⟨c.spot, c.next.spot⟩

/-- Ends the reading. -/
def fail {α : Type} (cause : Cause) (span : Span) : Reader α := throw ⟨cause, span, none⟩

/-- Lets a pattern be refused at the end of the text. -/
def refuse (cause : Cause) (span : Span) : Reader Unit :=
  modify fun c => { c with refusal := c.refusal <|> some ⟨cause, span, none⟩ }

/-- Takes one character. -/
def advance : Reader Unit := modify Cursor.next

/-- Passes over what does not count. -/
def skip : Reader Unit := modify Cursor.skip

/-- Takes one character and passes over what does not count after it. -/
def advanceSkipping : Reader Unit := do
  advance
  skip

/-- Takes characters with a property, passing over what does not count after each. -/
def takeUpTo (p : Char → Bool) : Nat → Reader (List Char)
  | 0 => return []
  | n + 1 => do
    match ← peek? with
    | some c =>
      if p c then
        advanceSkipping
        return c :: (← takeUpTo p n)
      else return []
    | none => return []

/-- Takes all characters with a property up to one without it. -/
def takeWhile (p : Char → Bool) : Reader (List Char) := do takeUpTo p (← get).rest.length

/-- Passes over blank characters, whether they count or not. -/
def skipBlank : Reader Unit :=
  modify fun c =>
    let blank := c.rest.takeWhile Text.isBlank
    { c with spot := blank.foldl Spot.after c.spot, rest := c.rest.drop blank.length }

/-- Takes a text, if it stands next. -/
def takeIf (text : String) : Reader Bool := do
  let c ← get
  if text.toList.isPrefixOf c.rest then
    set { c with spot := text.toList.foldl Spot.after c.spot, rest := c.rest.drop text.length }
    return true
  else return false

end Reader

end ConfigTemplate.Pattern
