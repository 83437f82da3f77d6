import ConfigTemplate.Json.Value
import ConfigTemplate.Text.Basic

/-!
# JSON text

Two texts of a value: one without any blank, and one with a line for every item and member,
indented by two spaces for each level.  In a string only the double quote, the backslash and the
control characters are escaped.
-/

namespace ConfigTemplate.Json

/-- How one character is written inside a JSON string. -/
def escapedChar (c : Char) : List Char :=
  if c == '"' then ['\\', '"']
  else if c == '\\' then ['\\', '\\']
  else if c == '\x08' then ['\\', 'b']
  else if c == '\x0c' then ['\\', 'f']
  else if c == '\n' then ['\\', 'n']
  else if c == '\r' then ['\\', 'r']
  else if c == '\t' then ['\\', 't']
  else if c < ' ' then
    let digits := Text.hexDigits c.toNat
    ['\\', 'u'] ++ List.replicate (4 - digits.length) '0' ++ digits
  else [c]

/-- The JSON string of a list of characters. -/
def stringChars (cs : List Char) : List Char :=
  '"' :: cs.flatMap escapedChar ++ ['"']

namespace Value

mutual

/-- The text of a value without blanks. -/
def compactChars : Value → List Char
  | .null => "null".toList
  | .boolean true => "true".toList
  | .boolean false => "false".toList
  | .number n => n.chars
  | .string s => stringChars s.toList
  | .array items => '[' :: compactItems items ++ [']']
  | .object members => '\x7b' :: compactMembers members ++ ['\x7d']
termination_by structural value => value

/-- The texts of the items with commas between them. -/
def compactItems : List Value → List Char
  | [] => []
  | [item] => item.compactChars
  | item :: next :: rest => item.compactChars ++ ',' :: compactItems (next :: rest)
termination_by structural items => items

/-- The texts of the members with commas between them. -/
def compactMembers : List (String × Value) → List Char
  | [] => []
  | [(name, value)] => stringChars name.toList ++ ':' :: value.compactChars
  | (name, value) :: next :: rest =>
    stringChars name.toList ++ ':' :: value.compactChars ++ ',' :: compactMembers (next :: rest)
termination_by structural members => members

end

/-- A line end and the indentation of a level. -/
def lineBreak (level : Nat) : List Char :=
  '\n' :: List.replicate (2 * level) ' '

mutual

/-- The text of a value over several lines, as it stands at a level of indentation. -/
def prettyChars (level : Nat) : Value → List Char
  | .array [] => ['[', ']']
  | .array (item :: rest) =>
    '[' :: prettyItems (level + 1) (item :: rest) ++ lineBreak level ++ [']']
  | .object [] => ['\x7b', '\x7d']
  | .object (member :: rest) =>
    '\x7b' :: prettyMembers (level + 1) (member :: rest) ++ lineBreak level ++ ['\x7d']
  | .null => "null".toList
  | .boolean true => "true".toList
  | .boolean false => "false".toList
  | .number n => n.chars
  | .string s => stringChars s.toList
termination_by structural value => value

/-- The items, each on a line of its own, with commas between them. -/
def prettyItems (level : Nat) : List Value → List Char
  | [] => []
  | [item] => lineBreak level ++ item.prettyChars level
  | item :: next :: rest =>
    lineBreak level ++ item.prettyChars level ++ ',' :: prettyItems level (next :: rest)
termination_by structural items => items

/-- The members, each on a line of its own, with commas between them. -/
def prettyMembers (level : Nat) : List (String × Value) → List Char
  | [] => []
  | [(name, value)] =>
    lineBreak level ++ stringChars name.toList ++ ':' :: ' ' :: value.prettyChars level
  | (name, value) :: next :: rest =>
    lineBreak level ++ stringChars name.toList ++ ':' :: ' ' :: value.prettyChars level
      ++ ',' :: prettyMembers level (next :: rest)
termination_by structural members => members

end

/-- The text of a value without blanks. -/
def compact (value : Value) : String := String.ofList value.compactChars

/-- The text of a value over several lines. -/
def pretty (value : Value) : String := String.ofList (value.prettyChars 0)

end Value

end ConfigTemplate.Json
