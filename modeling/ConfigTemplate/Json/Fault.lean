import ConfigTemplate.Number.Basic
import ConfigTemplate.Text.Basic

/-!
# What can be wrong with a document

A fault is a cause and, for a document given as text, the place where it was noticed.  Lines are
counted from one; a column is the number of bytes of the line that had been read.
-/

namespace ConfigTemplate.Json

/-- A line and the bytes read on it. -/
structure Position where
  line : Nat
  column : Nat
deriving DecidableEq

namespace Position

/-- The start of a text. -/
def start : Position := ⟨1, 0⟩

/-- The position after a character. -/
def after (p : Position) (c : Char) : Position :=
  if c == '\n' then ⟨p.line + 1, 0⟩ else ⟨p.line, p.column + c.utf8Size⟩

/-- The position after the first byte of a character. -/
def afterByte (p : Position) (c : Char) : Position :=
  if c == '\n' then ⟨p.line + 1, 0⟩ else ⟨p.line, p.column + 1⟩

/-- The position after all characters of a list. -/
def afterAll (p : Position) (cs : List Char) : Position :=
  cs.foldl after p

/-- The position after the given number of bytes. -/
def afterBytes (p : Position) : Nat → List Char → Position
  | 0, _ => p
  | _, [] => p
  | n + 1, c :: rest =>
    if c.utf8Size ≤ n + 1 then (p.after c).afterBytes (n + 1 - c.utf8Size) rest
    else ⟨p.line, p.column + (n + 1)⟩
termination_by _ cs => cs.length

/-- The position one byte earlier on the same line. -/
def before (p : Position) : Position := ⟨p.line, p.column - 1⟩

end Position

/-- A position, where there is a text to speak of. -/
abbrev Place := Option Position

/-- What stands in a document in place of what was expected. -/
inductive Found where
  | null
  | boolean (b : Bool)
  | integer (value : Int)
  | float (value : Binary64)
  | string (s : String)
  | sequence
  | map
deriving DecidableEq

/-- The description of what was found. -/
def Found.text : Found → String
  | .null => "null"
  | .boolean b => "boolean `" ++ (if b then "true" else "false") ++ "`"
  | .integer value => "integer `" ++ Number.integerText value ++ "`"
  | .float value => "floating point `" ++ String.ofList (Number.floatChars value) ++ "`"
  | .string s => "string " ++ Text.quoted s
  | .sequence => "sequence"
  | .map => "map"

/-- The reasons for which a document is refused. -/
inductive Cause where
  | endInValue
  | endInList
  | endInObject
  | endInString
  | expectedValue
  | expectedWord
  | expectedColon
  | expectedListComma
  | expectedObjectComma
  | trailingComma
  | keyNotString
  | controlCharacter
  | invalidEscape
  | loneSurrogate
  | unfinishedSurrogate
  | invalidNumber
  | numberOutOfRange
  | tooDeep
  | trailingCharacters
  | wrongType (found : Found) (expected : String)
  | wrongValue (found : Found) (expected : String)
  | missingField (name : String)
  | duplicateField (name : String)
  | unknownVariant (name : String) (known : List String)
  | wrongLength (length : Nat) (expected : String)
deriving DecidableEq

/-- A name between backticks. -/
def backquoted (name : String) : String := "`" ++ name ++ "`"

/-- The wording of a cause. -/
def Cause.text : Cause → String
  | .endInValue => "EOF while parsing a value"
  | .endInList => "EOF while parsing a list"
  | .endInObject => "EOF while parsing an object"
  | .endInString => "EOF while parsing a string"
  | .expectedValue => "expected value"
  | .expectedWord => "expected ident"
  | .expectedColon => "expected `:`"
  | .expectedListComma => "expected `,` or `]`"
  | .expectedObjectComma => "expected `,` or `\x7d`"
  | .trailingComma => "trailing comma"
  | .keyNotString => "key must be a string"
  | .controlCharacter => "control character (\\u0000-\\u001F) found while parsing a string"
  | .invalidEscape => "invalid escape"
  | .loneSurrogate => "lone leading surrogate in hex escape"
  | .unfinishedSurrogate => "unexpected end of hex escape"
  | .invalidNumber => "invalid number"
  | .numberOutOfRange => "number out of range"
  | .tooDeep => "recursion limit exceeded"
  | .trailingCharacters => "trailing characters"
  | .wrongType found expected => "invalid type: " ++ found.text ++ ", expected " ++ expected
  | .wrongValue found expected => "invalid value: " ++ found.text ++ ", expected " ++ expected
  | .missingField name => "missing field " ++ backquoted name
  | .duplicateField name => "duplicate field " ++ backquoted name
  | .unknownVariant name known =>
    "unknown variant " ++ backquoted name ++ ", expected one of "
      ++ ", ".intercalate (known.map backquoted)
  | .wrongLength length expected =>
    "invalid length " ++ toString length ++ ", expected " ++ expected

/-- A cause and the place where it was noticed. -/
structure Fault where
  cause : Cause
  place : Place
deriving DecidableEq

/-- The message of a fault. -/
def Fault.message (fault : Fault) : String :=
  match fault.place with
  | none => fault.cause.text
  | some p =>
    fault.cause.text ++ " at line " ++ toString p.line ++ " column " ++ toString p.column

end ConfigTemplate.Json
