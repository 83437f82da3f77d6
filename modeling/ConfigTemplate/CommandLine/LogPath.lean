import ConfigTemplate.Files.Path
import ConfigTemplate.Settings
import ConfigTemplate.Text.Alphanumeric
import ConfigTemplate.Text.Basic

/-!
# Paths of log files

A path of a log file may name variables, each as `$ENV{NAME}`.  Those that are set are replaced by
their values; the others stay as they are.
-/

namespace ConfigTemplate

namespace LogPath

/-- What stands in front of the name of a variable. -/
def opening : String := "$ENV\x7b"

/-- The place that a variable takes in a path. -/
def reference (name : String) : String := opening ++ name ++ "\x7d"

/-- A character that a name of a variable can have after its first one. -/
def isNamePart (c : Char) : Bool := Text.isAlphanumeric c || c == '_' || c == '.'

/-- The name of a variable that ends in a closing brace. -/
def closedName? (cs : List Char) : Option String :=
  let name := cs.takeWhile isNamePart
  if name.isEmpty || name.head? == some '.' then none
  else if (cs.drop name.length).head? == some '\x7d' then some (String.ofList name)
  else none

/-- The names of the variables in a path, in the order in which they stand there. -/
def variablesIn : List Char → List String
  | [] => []
  | c :: rest =>
    let found :=
      if opening.toList.isPrefixOf (c :: rest) then closedName? (rest.drop (opening.length - 1))
      else none
    found.toList ++ variablesIn rest

/-- A path with one variable replaced wherever it stands, if it is set. -/
def expandOne (environment : Environment) (path name : String) : String :=
  match environment name with
  | some value => Text.replaceAll (reference name) value path
  | none => path

/-- A path with its variables replaced.  What a value names is replaced in its turn only if the
path itself names it further on. -/
def expand (environment : Environment) (path : String) : String :=
  (variablesIn path.toList).foldl (expandOne environment) path

end LogPath

end ConfigTemplate
