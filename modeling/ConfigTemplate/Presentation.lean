import ConfigTemplate.Text.UpperCase
import ConfigTemplate.Validation.Report

/-!
# Presentation

What the commands print for people: blocks of text under a title, in colour or without.
-/

namespace ConfigTemplate

/-- A look of text on a terminal: the numbers of a colour and of a weight. -/
structure Style where
  color : Option Nat
  weight : Option Nat
deriving DecidableEq

namespace Style

def cyanBold : Style := ⟨some 36, some 1⟩
def greenBold : Style := ⟨some 32, some 1⟩
def redBold : Style := ⟨some 31, some 1⟩
def yellow : Style := ⟨some 33, none⟩
def bold : Style := ⟨none, some 1⟩
def dim : Style := ⟨none, some 2⟩

/-- The sequence that switches a colour or a weight on. -/
def switch : Option Nat → String
  | none => ""
  | some code => "\x1b[" ++ toString code ++ "m"

/-- A text in a style, if colours are on. -/
def paint (colored : Bool) (style : Style) (text : String) : String :=
  if colored then switch style.color ++ switch style.weight ++ text ++ "\x1b[0m" else text

end Style

/-- A text filled up with blanks on the right. -/
def padRight (width : Nat) (s : String) : String :=
  s ++ String.ofList (List.replicate (width - s.length) ' ')

/-- A text filled up with blanks on the left. -/
def padLeft (width : Nat) (s : String) : String :=
  String.ofList (List.replicate (width - s.length) ' ') ++ s

/-- A line of the placeholder table. -/
structure TableRow where
  name : String
  form : String
  domain : String
  occurrences : Nat
  documented : Bool
deriving DecidableEq

/-- A line of a closing summary. -/
structure SummaryItem where
  key : String
  value : String
  emphasized : Bool
deriving DecidableEq

/-- Lines of a closing summary under a common name. -/
structure SummaryGroup where
  name : String
  items : List SummaryItem
deriving DecidableEq

namespace Presentation

/-- The title of a block, between empty lines. -/
def header (colored : Bool) (title : String) : String :=
  "\n" ++ Style.cyanBold.paint colored ("----- " ++ Text.upper title ++ " -----") ++ "\n\n"

/-- A key and its value on a line. -/
def keyValueLine (key value : String) : String :=
  "  " ++ padRight 18 (key ++ ":") ++ " " ++ value ++ "\n"

/-- Keys with their values. -/
def keyValues (colored : Bool) (title : String) (items : List (String × String)) : String :=
  header colored title ++ String.join (items.map fun (key, value) => keyValueLine key value)

/-- The columns of the placeholder table, the first one already filled up. -/
def tableColumns (name form uses domain : String) : String :=
  name ++ "  " ++ padRight 6 form ++ "  " ++ padLeft 5 uses ++ "  " ++ domain

/-- The width of the first column: that of the longest name in bytes. -/
def nameWidth (rows : List TableRow) : Nat :=
  (rows.map (·.name.utf8ByteSize)).foldl max 4

/-- A line of the placeholder table; names that are not documented stand out. -/
def tableLine (colored : Bool) (width : Nat) (row : TableRow) : String :=
  let name := padRight width row.name
  let name := if row.documented then name else Style.yellow.paint colored name
  "  " ++ tableColumns name row.form (toString row.occurrences) row.domain ++ "\n"

/-- The placeholder table. -/
def placeholderTable (colored : Bool) (title : String) (rows : List TableRow) : String :=
  let width := nameWidth rows
  let heading := tableColumns (padRight width "NAME") "FORM" "USES" "DOMAIN"
  header colored title ++ "  " ++ Style.dim.paint colored heading ++ "\n"
    ++ String.join (rows.map (tableLine colored width))

/-- A severity in its colour. -/
def severityLabel (colored : Bool) (severity : Severity) : String :=
  let label := padRight 7 severity.label
  match severity with
  | .info => Style.dim.paint colored label
  | .warning => Style.yellow.paint colored label
  | .error => Style.redBold.paint colored label

/-- A message of a report on a line. -/
def messageLine (colored : Bool) (m : Message) : String :=
  "  " ++ severityLabel colored m.severity ++ " " ++ padRight 12 (m.category ++ ":") ++ " "
    ++ m.text ++ "\n"

/-- A report with its verdict. -/
def validationSummary (colored : Bool) (title : String) (report : Report) : String :=
  let verdict :=
    if report.passed then Style.greenBold.paint colored "✓ Validation passed"
    else Style.redBold.paint colored "✗ Validation failed"
  header colored title ++ String.join (report.messages.map (messageLine colored))
    ++ (if report.messages.isEmpty then "" else "\n")
    ++ "  " ++ verdict ++ " (" ++ toString report.errors.length ++ " error(s), "
    ++ toString report.warnings.length ++ " warning(s), " ++ toString report.infos.length
    ++ " note(s))\n"

/-- A line of a closing summary. -/
def summaryLine (colored : Bool) (item : SummaryItem) : String :=
  keyValueLine item.key
    (if item.emphasized then Style.greenBold.paint colored item.value else item.value)

/-- A group of lines after an empty line, under its name if it has one. -/
def summaryGroup (colored : Bool) (group : SummaryGroup) : String :=
  "\n" ++ (if group.name.isEmpty then "" else "  " ++ group.name ++ ":\n")
    ++ String.join (group.items.map (summaryLine colored))

/-- The closing summary of a command that succeeded. -/
def completionSummary (colored : Bool) (title message : String) (groups : List SummaryGroup) :
    String :=
  header colored title ++ "  " ++ Style.greenBold.paint colored "✓" ++ " "
    ++ Style.bold.paint colored message ++ "\n"
    ++ String.join (groups.map (summaryGroup colored))

end Presentation

end ConfigTemplate
