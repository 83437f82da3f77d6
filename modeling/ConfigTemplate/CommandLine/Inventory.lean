import ConfigTemplate.CommandLine.Plan
import ConfigTemplate.Placeholder.Use
import ConfigTemplate.Presentation

/-!
# The inventory of a template

The placeholders of a template with their places and catalog entries, and how they cover the
catalog, as a table for people or as JSON.  A template with stray identifiers, or one that does
not cover the catalog exactly, is listed and then refused.
-/

namespace ConfigTemplate

/-- The JSON form of a domain. -/
def Domain.toValue (d : Domain) : Json.Value :=
  let kind (name : String) : String × Json.Value := ("kind", .string name)
  match d with
  | .positiveInteger => .object [kind "positive_integer"]
  | .nonNegativeInteger => .object [kind "non_negative_integer"]
  | .integer => .object [kind "integer"]
  | .integerRange least greatest =>
    .object [kind "integer_range", ("max", .number (.closest greatest)),
      ("min", .number (.closest least))]
  | .boolean => .object [kind "boolean"]
  | .number => .object [kind "number"]
  | .path => .object [kind "path"]
  | .enumeration known => .object [kind "enumeration", ("known", .array (known.map .string))]
  | .text => .object [kind "text"]

namespace Inventory

/-- A list of names as JSON. -/
def namesValue (names : List String) : Json.Value := .array (names.map .string)

/-- A value as JSON, or null if there is none. -/
def valueOrNull {α : Type} (form : α → Json.Value) : Option α → Json.Value
  | some value => form value
  | none => .null

/-- The place of an occurrence as JSON. -/
def locationValue (o : Occurrence) : Json.Value :=
  .object [
    ("column", .number (.closest o.column)),
    ("form", .string o.form.text),
    ("line", .number (.closest o.line))]

/-- A placeholder as JSON. -/
def placeholderValue (p : PlaceholderUse) : Json.Value :=
  .object [
    ("description", valueOrNull (fun entry => .string entry.description) p.entry),
    ("documented", .boolean p.entry.isSome),
    ("domain", valueOrNull (fun entry => entry.domain.toValue) p.entry),
    ("form", .string p.form.text),
    ("locations", .array (p.occurrences.map locationValue)),
    ("name", .string p.name)]

/-- The coverage of the catalog as JSON. -/
def coverageValue (c : Coverage) : Json.Value :=
  .object [
    ("exact", .boolean c.isExact),
    ("missing", namesValue c.missing),
    ("undocumented", namesValue c.undocumented)]

/-- The inventory as JSON. -/
def value (t : Template) : Json.Value :=
  .object [
    ("coverage", coverageValue t.coverage),
    ("placeholders", .array (t.uses.map placeholderValue)),
    ("stray_identifiers", namesValue t.strayIdentifiers),
    ("template", .string t.name)]

/-- A placeholder as a row of the table. -/
def row (p : PlaceholderUse) : TableRow where
  name := p.name
  form := p.form.text
  domain := p.domainText
  occurrences := p.occurrences.length
  documented := p.entry.isSome

/-- Names in a line of text. -/
def namesText (names : List String) : String :=
  let text := Error.listed names
  if text.isEmpty then "none" else text

/-- The inventory for people. -/
def text (colored : Bool) (t : Template) : String :=
  Presentation.placeholderTable colored t.name (t.uses.map row)
    ++ Presentation.keyValues colored "Catalog coverage" [
      ("Status", if t.coverage.isExact then "exact" else "incomplete"),
      ("Undocumented", namesText t.coverage.undocumented),
      ("Missing", namesText t.coverage.missing),
      ("Not placeholders", namesText t.strayIdentifiers)]

/-- Refuses stray identifiers first, and then an inexact coverage. -/
def verdict (t : Template) : Except Error Unit :=
  if !t.strayIdentifiers.isEmpty then
    .error (.operationFailed (t.name
      ++ " contains bare identifier(s) that are not placeholders: "
      ++ Error.listed t.strayIdentifiers))
  else if !t.coverage.isExact then
    .error (.operationFailed (t.name ++ " does not match the placeholder catalog ("
      ++ toString t.coverage.undocumented.length ++ " undocumented, "
      ++ toString t.coverage.missing.length ++ " missing)"))
  else .ok ()

/-- The plan: to print the inventory, and to end with the verdict. -/
def plan (colored : Bool) (template : Option String) (json : Bool) (s : Surroundings) :
    Logged Plan := do
  let t ← Template.load template s.read
  return {
    writing := none
    output := if json then (value t).pretty ++ "\n" else text colored t
    verdict := verdict t }

end Inventory

end ConfigTemplate
