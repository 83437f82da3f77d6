import ConfigTemplate.Files.Tree
import ConfigTemplate.Log

/-!
# Writing a file

A file is written in two steps: its text goes into a new file beside it, which is then moved into
place, so nobody ever sees half of it.  Without leave to replace, nothing may be at the path, both
before the first step and at the second one.
-/

namespace ConfigTemplate

namespace FileTree

/-- The name of the nth file for a text on its way. -/
def stagingName (n : Nat) : String := ".ds_config_" ++ toString n ++ ".tmp"

/-- A location for a text on its way to a file of the given name: the first in a directory at which
nothing is and nothing will be. -/
def stagingLocation (tree : FileTree) (directory : Location) (target : Option String) : Location :=
  let free := (List.range (tree.entries.length + 2)).find? fun n =>
    (tree.entry? (directory ++ [stagingName n])).isNone && target != some (stagingName n)
  directory ++ [stagingName (free.getD 0)]

/-- Makes the directory of a path, and puts a text into a new file in it.  The location of that
file is part of the result. -/
def stage (tree : FileTree) (path text : String) : Except FileFault Location × FileTree :=
  let absolute := Path.isAbsolute path
  let directory := (Path.components path).dropLast
  match tree.createDirectories absolute directory.reverse with
  | (.error fault, tree) => (.error fault, tree)
  | (.ok (), tree) =>
    match tree.walk (if absolute then [] else tree.workingDirectory) directory with
    | .error fault => (.error fault, tree)
    | .ok location =>
      let staged := tree.stagingLocation location (Path.components path).getLast?
      (.ok staged, tree.put staged (.file (.text text)))

/-- Moves a staged text into place.  If that fails, the staged file is taken away. -/
def persist (tree : FileTree) (staged : Location) (path text : String) (replacing : Bool) :
    Except Error Unit × FileTree :=
  match tree.rename staged (.text text) path replacing with
  | .ok tree => (.ok (), tree)
  | .error .exists => (.error (.outputExists path), tree.remove staged)
  | .error fault => (.error (.file fault), tree.remove staged)

/-- Writes a text to a path while another process may change the tree between the two steps. -/
def writeWhile (interference : FileTree → FileTree) (tree : FileTree) (path text : String)
    (replacing : Bool) : Except Error Unit × FileTree :=
  if tree.present path && !replacing then (.error (.outputExists path), tree)
  else
    match tree.stage path text with
    | (.error fault, tree) => (.error (.file fault), tree)
    | (.ok staged, tree) => (interference tree).persist staged path text replacing

/-- Writes a text to a path. -/
def write (tree : FileTree) (path text : String) (replacing : Bool) :
    Except Error Unit × FileTree :=
  tree.writeWhile id path text replacing

/-- What is logged about a text that was written. -/
def writtenLine (path text : String) : LogLine :=
  ⟨.info, .output, "Wrote " ++ path ++ " (" ++ toString text.utf8ByteSize ++ " bytes)"⟩

end FileTree

end ConfigTemplate
