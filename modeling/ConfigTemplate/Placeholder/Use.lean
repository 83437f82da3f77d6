import ConfigTemplate.Json.Value
import ConfigTemplate.Template.Basic

/-!
# Uses of placeholders

The placeholders of a template, each with all its occurrences, its form and its catalog entry.
-/

namespace ConfigTemplate

/-- The form of all occurrences of a placeholder together. -/
inductive CommonForm where
  | bare
  | quoted
  /-- Both forms occur. -/
  | mixed
deriving DecidableEq

namespace CommonForm

/-- The common form of occurrences. -/
def ofOccurrences (occurrences : List Occurrence) : CommonForm :=
  if occurrences.all (·.form == .bare) then .bare
  else if occurrences.all (·.form == .quoted) then .quoted
  else .mixed

/-- The name of a form. -/
def text : CommonForm → String
  | .bare => "bare"
  | .quoted => "quoted"
  | .mixed => "mixed"

end CommonForm

/-- A placeholder of a template with everything that is known about it. -/
structure PlaceholderUse where
  name : String
  occurrences : List Occurrence
  form : CommonForm
  entry : Option CatalogEntry

namespace PlaceholderUse

/-- The domain of a placeholder in words. -/
def domainText (u : PlaceholderUse) : String :=
  match u.entry with
  | some entry => entry.domain.describe
  | none => "undocumented"

end PlaceholderUse

/-- Adds an occurrence to its group, which is started if there is none. -/
def addToGroup (o : Occurrence) : List (List Occurrence) → List (List Occurrence)
  | [] => [[o]]
  | group :: rest =>
    if group.any (·.name == o.name) then (group ++ [o]) :: rest else group :: addToGroup o rest

/-- The occurrences grouped by name, in the order of the first of each group. -/
def groupByName (occurrences : List Occurrence) : List (List Occurrence) :=
  occurrences.foldl (fun groups o => addToGroup o groups) []

/-- The use of a placeholder, given its occurrences. -/
def PlaceholderUse.ofGroup (group : List Occurrence) : PlaceholderUse :=
  let name := (group.head?.map (·.name)).getD ""
  ⟨name, group, .ofOccurrences group, documented? name⟩

/-- The uses of the placeholders, in the order of the first occurrence of each. -/
def Template.uses (t : Template) : List PlaceholderUse :=
  (groupByName t.occurrences).map .ofGroup

end ConfigTemplate
