import ConfigTemplate.Bindings.Basic
import ConfigTemplate.Json.Reader
import ConfigTemplate.Template.Basic
import ConfigTemplate.Text.Basic

/-!
# Rendering

A template is rendered by writing the value of each placeholder in its place: a bare one as a JSON
literal, a quoted one as a JSON string.  What stands between the placeholders is kept.  What comes
out has to be JSON.
-/

namespace ConfigTemplate

/-- How a template is rendered. -/
structure RenderMode where
  /-- Refuse bindings for names that the template does not have. -/
  strict : Bool := true
  /-- Write the document over again, in the pretty form, instead of keeping the layout. -/
  pretty : Bool := false
deriving DecidableEq

/-- A rendered template: its text and the document that the text is. -/
structure Rendered where
  text : String
  value : Json.Value

namespace Template

/-- The placeholders that have no value, in the order of their first use. -/
def missingNames (t : Template) (b : Bindings) : List String :=
  t.placeholders.filter (!b.contains ·)

/-- The bound names that are no placeholders, in increasing order. -/
def unknownNames (t : Template) (b : Bindings) : List String :=
  b.names.filter (!t.placeholders.contains ·)

/-- Refuses stray identifiers, then placeholders without a value, then, if that is asked for,
unknown names. -/
def checkNames (t : Template) (b : Bindings) (strict : Bool) : Except Error Unit :=
  if !t.strayIdentifiers.isEmpty then .error (.strayIdentifiers t.strayIdentifiers)
  else if !(t.missingNames b).isEmpty then .error (.missingBindings (t.missingNames b))
  else if strict && !(t.unknownNames b).isEmpty then .error (.unknownBindings (t.unknownNames b))
  else .ok ()

end Template

/-- A value as it is written in the place of a placeholder. -/
def Scalar.writtenAs (v : Scalar) : Form → List Char
  | .bare => v.literalChars
  | .quoted => v.quotedChars

/-- Writes values in the places of occurrences.  `rest` is the text from the byte `cursor` on, and
the occurrences stand in it one after the other. -/
def Bindings.splice (b : Bindings) (cursor : Nat) (rest : List Char) :
    List Occurrence → Except Error (List Char)
  | [] => .ok rest
  | o :: later =>
    match b.get? o.name with
    | none => .error (.missingBindings [o.name])
    | some v =>
      let (gap, token) := Text.splitBytes (o.start - cursor) rest
      let behind := (Text.splitBytes (o.stop - o.start) token).2
      (b.splice o.stop behind later).map fun chars => gap ++ v.writtenAs o.form ++ chars

namespace Template

/-- The characters of the template with every placeholder replaced. -/
def substituted (t : Template) (b : Bindings) : Except Error (List Char) :=
  b.splice 0 t.source.toList t.occurrences

/-- The template with its placeholders replaced. -/
def render (t : Template) (b : Bindings) (mode : RenderMode) : Except Error Rendered := do
  t.checkNames b mode.strict
  let chars ← t.substituted b
  let value ← (Json.Document.ofChars chars).toValue.mapError .invalidJson
  let text := if mode.pretty then value.pretty ++ "\n" else String.ofList chars
  return ⟨text, value⟩

/-- Rendering with its log: a warning about the unknown names that are passed over, and the number
of placeholders replaced. -/
def renderLogged (t : Template) (b : Bindings) (mode : RenderMode) : Logged Rendered := do
  Logged.ofExcept (t.checkNames b mode.strict)
  if !(t.unknownNames b).isEmpty then
    Logged.warn .rendering ("Ignoring value(s) for placeholder(s) not in " ++ t.name ++ ": "
      ++ Error.listed (t.unknownNames b))
  let rendered ← Logged.ofExcept (t.render b mode)
  Logged.debug .rendering ("Rendered " ++ t.name ++ " with " ++ toString t.occurrences.length
    ++ " substitution(s)")
  return rendered

end Template

end ConfigTemplate
