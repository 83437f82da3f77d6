import ConfigTemplate.Log
import ConfigTemplate.Pattern.Reader
import ConfigTemplate.Text.Basic

/-!
# Log filters

A filter says how verbose the parts of the tool are, and may ask for a pattern in the messages.  It
is described by a text: items with commas between them, and a pattern behind a slash.  What cannot
be understood of a description is left out of the filter, and gives a complaint.
-/

namespace ConfigTemplate

/-- How many levels are shown, beginning with the most important one. -/
structure Verbosity where
  rank : Nat
deriving DecidableEq

namespace Verbosity

/-- The words for the verbosities, from nothing to everything. -/
def words : List String := ["off", "error", "warn", "info", "debug", "trace"]

/-- The verbosity that shows everything. -/
def greatest : Verbosity := ⟨words.length - 1⟩

/-- The verbosity that shows a level and all that are more important. -/
def upTo (level : LogLevel) : Verbosity := ⟨level.rank⟩

/-- The verbosity of a word, in any case of letters. -/
def ofWord? (word : String) : Option Verbosity :=
  (words.findIdx? (·.toList == word.toList.map Char.toLower)).map Verbosity.mk

/-- Whether lines of a level are shown. -/
def shows (v : Verbosity) (level : LogLevel) : Bool := decide (level.rank ≤ v.rank)

end Verbosity

/-- An item of the description of a filter. -/
inductive LogDirective where
  /-- How verbose the tool is in general. -/
  | general (verbosity : Verbosity)
  /-- How verbose the parts are that have names beginning with this one. -/
  | part (name : String) (verbosity : Verbosity)
deriving DecidableEq

namespace LogDirective

/-- The directive of an item: a level, the beginning of a name, or such a beginning and a level.
The error tells which text is not understood. -/
def ofItem (item : List Char) : Except String LogDirective :=
  match (Text.splitAt '=' item).map String.ofList with
  | [word] =>
    match Verbosity.ofWord? word with
    | some verbosity => .ok (.general verbosity)
    | none => .ok (.part word .greatest)
  | [name, level] =>
    let level := Text.trim level
    if level.isEmpty then .ok (.part name .greatest)
    else
      match Verbosity.ofWord? level with
      | some verbosity => .ok (.part name verbosity)
      | none => .error level
  | _ => .error (String.ofList item)

end LogDirective

/-- Which log lines are shown. -/
structure LogFilter where
  general : Verbosity
  /-- The verbosities of parts under the beginnings of their names, each beginning once. -/
  parts : List (String × Verbosity)
  /-- What has to occur in a message. -/
  pattern : Option Pattern
deriving DecidableEq

namespace LogFilter

/-- The filter with the same verbosity for all parts. -/
def uniform (verbosity : Verbosity) : LogFilter := ⟨verbosity, [], none⟩

/-- The longer one of two beginnings of names, the first if there is none to compare with. -/
def longer (a : String × Verbosity) : Option (String × Verbosity) → String × Verbosity
  | none => a
  | some b => if b.1.length < a.1.length then a else b

/-- How verbose a part of the tool is: as the longest beginning of its name says, or else as the
tool is in general. -/
def verbosity (f : LogFilter) (source : LogSource) : Verbosity :=
  let about := f.parts.filter fun (name, _) => name.toList.isPrefixOf source.path.toList
  ((about.foldr (fun part longest => some (longer part longest)) none).map (·.2)).getD f.general

/-- Whether a line is shown. -/
def shows (f : LogFilter) (line : LogLine) : Bool :=
  (f.verbosity line.source).shows line.level && f.pattern.all (·.occursIn line.message)

/-- The filter after a directive.  What was said before of the same parts is forgotten. -/
def follow (f : LogFilter) : LogDirective → LogFilter
  | .general verbosity => { f with general := verbosity }
  | .part name verbosity =>
    { f with parts := f.parts.filter (·.1 != name) ++ [(name, verbosity)] }

/-- The filter after the items of a description, and the complaints about them. -/
def followItems (f : LogFilter) : List (List Char) → LogFilter × List String
  | [] => (f, [])
  | item :: rest =>
    match LogDirective.ofItem item with
    | .ok directive => (f.follow directive).followItems rest
    | .error text =>
      let (f, complaints) := f.followItems rest
      (f, ("invalid logging spec '" ++ text ++ "'") :: complaints)

/-- The items of a text: the pieces between the commas that are not blank. -/
def itemsOf (text : List Char) : List (List Char) :=
  ((Text.splitAt ',' text).map Text.trimChars).filter (!·.isEmpty)

/-- The filter after a description, and the complaints about it. -/
def describedBy (f : LogFilter) (description : String) : LogFilter × List String :=
  match Text.splitAt '/' description.toList with
  | [] => (f, [])
  | [items] => f.followItems (itemsOf items)
  | [items, pattern] =>
    let (f, complaints) := f.followItems (itemsOf items)
    match Pattern.ofText (String.ofList pattern) with
    | .ok pattern => ({ f with pattern := some pattern }, complaints)
    | .error fault =>
      (f, complaints ++ ["invalid regex filter - " ++ fault.message (String.ofList pattern)])
  | _ => (f, ["invalid logging spec '" ++ description ++ "' (too many '/'s)"])

end LogFilter

end ConfigTemplate
