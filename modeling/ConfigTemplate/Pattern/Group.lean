import ConfigTemplate.Pattern.Cursor
import ConfigTemplate.Text.Alphanumeric

/-!
# Groups

What stands behind an opening parenthesis: nothing, a name, or flags, which are for the group or,
if it is closed at once, for the rest of the text around it.
-/

namespace ConfigTemplate.Pattern

/-- What a parenthesis opens. -/
inductive Opening where
  /-- Flags for the rest of the group that they stand in. -/
  | flags (letters : List Char)
  /-- A group with flags of its own. -/
  | group (letters : List Char)

namespace Reader

/-- Takes the beginning of a condition on what stands around a place. -/
def takeLookAround : Reader Bool := do
  if ← takeIf "?=" then return true
  else if ← takeIf "?!" then return true
  else if ← takeIf "?<=" then return true
  else takeIf "?<!"

/-- A character that a name of a group can begin with. -/
def isNameStart (c : Char) : Bool := c == '_' || Text.isAlphabetic c

/-- A character that a name of a group can have after its first one. -/
def isNameRest (c : Char) : Bool :=
  c == '_' || c == '.' || c == '[' || c == ']' || Text.isAlphanumeric c

/-- Takes the characters of a name. -/
def takeName : Nat → (Char → Bool) → Reader (List Char)
  | 0, _ => return []
  | n + 1, allowed => do
    match ← peek? with
    | none => fail .groupNameUnclosed (← here)
    | some c =>
      if c == '>' then return []
      else if allowed c then
        advance
        return c :: (← takeName n isNameRest)
      else fail .groupNameInvalid (← ahead)

/-- Reads the name of a group, which no other group can have. -/
def readGroupName : Reader Unit := do
  let first ← spot
  let name := String.ofList (← takeName ((← get).rest.length + 1) isNameStart)
  let span ← since first
  advance
  if name.isEmpty then fail .groupNameEmpty ⟨first, first⟩
  match (← get).names.lookup name with
  | some earlier => throw ⟨.groupNameDuplicate, span, some earlier⟩
  | none => modify fun c => { c with names := (name, span) :: c.names }

/-- Reads flags up to what ends them, given those that were read, the last one first.  The number
bounds the flags that are left. -/
def readFlags : Nat → List (Char × Span) → Reader (List (Char × Span))
  | 0, read => return read
  | n + 1, read => do
    match ← peek? with
    | none => fail .flagMissing (← here)
    | some c =>
      if c == ':' || c == ')' then return read
      let span ← ahead
      if c != '-' && !Flags.letters.contains c then fail .flagUnknown span
      match read.lookup c with
      | some earlier =>
        throw ⟨if c == '-' then .flagRepeatedNegation else .flagDuplicate, span, some earlier⟩
      | none =>
        advance
        readFlags n ((c, span) :: read)

/-- Reads what a parenthesis opens, behind the question mark; `inner` is the place of that mark.
No flags at all are taken for a repetition of nothing. -/
def readFlagged (opened inner : Span) : Reader Opening := do
  if (← peek?).isNone then fail .groupUnclosed opened
  let read ← readFlags ((← get).rest.length + 1) []
  match read with
  | ('-', span) :: _ => fail .flagDanglingNegation span
  | _ =>
    let letters := (read.map (·.1)).reverse
    let closed := (← peek?) == some ')'
    advance
    if closed && letters.isEmpty then fail .repetitionMissing inner
    return if closed then .flags letters else .group letters

/-- Reads what a parenthesis opens, and the parenthesis itself as the piece that it is. -/
def readOpening : Reader (Opening × Span) := do
  let opened ← ahead
  advanceSkipping
  if ← takeLookAround then fail .lookAround (← since opened.first)
  let inner ← here
  if ← takeIf "?P<" then
    readGroupName
    return (.group [], opened)
  else if ← takeIf "?<" then
    readGroupName
    return (.group [], opened)
  else if ← takeIf "?" then return (← readFlagged opened inner, opened)
  else return (.group [], opened)

end Reader

end ConfigTemplate.Pattern
