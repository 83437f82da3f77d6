import ConfigTemplate.Files.Path
import ConfigTemplate.Log
import ConfigTemplate.Placeholder.Catalog
import ConfigTemplate.Placeholder.Occurrence
import ConfigTemplate.Template.Builtin

/-!
# Templates

A template is a named text.  Its placeholders and stray identifiers are found by scanning it.
-/

namespace ConfigTemplate

/-- A template, and the path it was read from. -/
structure Template where
  name : String
  source : String
  origin : Option String
deriving DecidableEq

namespace Template

/-- The template of a text. -/
def ofText (name source : String) : Template := ⟨name, source, none⟩

/-- The built-in template. -/
def builtin : Template := ofText builtinName builtinSource

/-- Every placeholder in the order of the text. -/
def occurrences (t : Template) : List Occurrence := placeholdersOf t.source.toList

/-- The names of the placeholders in the order of their first use. -/
def placeholders (t : Template) : List String := distinctNames t.occurrences

/-- The names of the stray identifiers in the order of their first use. -/
def strayIdentifiers (t : Template) : List String := distinctNames (straysOf t.source.toList)

/-- The coverage of the catalog. -/
def coverage (t : Template) : Coverage := .ofNames t.placeholders

/-- The template of a file, given what reading it gave. -/
def ofFile (path : String) (content : Except FileFault String) : Logged Template := do
  let source ← Logged.ofExcept (content.mapError (Error.unreadable path))
  let t : Template := ⟨(Path.fileName? path).getD path, source, some path⟩
  Logged.debug .template ("Loaded template " ++ path ++ " with " ++ toString t.occurrences.length
    ++ " placeholder occurrence(s)")
  return t

/-- The template at a path, or the built-in one if there is no path. -/
def load (path : Option String) (read : String → Except FileFault String) : Logged Template :=
  match path with
  | some path => ofFile path (read path)
  | none => pure builtin

end Template

end ConfigTemplate
