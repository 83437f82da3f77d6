import ConfigTemplate.Json.Printer
import ConfigTemplate.Number.Literal
import ConfigTemplate.Text.Basic

/-!
# Placeholder values

A placeholder stands for a truth value, a number or a text.  Where the placeholder is bare its
value is written as a JSON literal, where it is quoted as a JSON string.
-/

namespace ConfigTemplate

/-- The value of a placeholder. -/
inductive Scalar where
  | boolean (b : Bool)
  | number (n : Number)
  | text (s : String)
deriving DecidableEq

namespace Scalar

instance : Inhabited Scalar := ⟨.boolean false⟩

/-- A truth value as a word. -/
def booleanText (b : Bool) : String := if b then "true" else "false"

/-- The plain text of a value. -/
def display : Scalar → String
  | .boolean b => booleanText b
  | .number n => n.text
  | .text s => s

/-- The value as JSON. -/
def toValue : Scalar → Json.Value
  | .boolean b => .boolean b
  | .number n => .number n
  | .text s => .string s

/-- The JSON literal of a value. -/
def literalChars : Scalar → List Char
  | .boolean b => (booleanText b).toList
  | .number n => n.chars
  | .text s => Json.stringChars s.toList

/-- The JSON string of the plain text of a value. -/
def quotedChars (v : Scalar) : List Char := Json.stringChars v.display.toList

/-- The value that a text typed by hand most likely means: a truth value or a number if it looks
like one, else the text itself, its blanks included. -/
def infer (raw : String) : Scalar :=
  let trimmed := Text.trim raw
  if trimmed == "true" then .boolean true
  else if trimmed == "false" then .boolean false
  else
    match Number.parse? trimmed.toList with
    | some n => .number n
    | none => .text raw

end Scalar

end ConfigTemplate
