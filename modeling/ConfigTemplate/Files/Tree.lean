import ConfigTemplate.Dictionary
import ConfigTemplate.Files.Fault
import ConfigTemplate.Files.Path

/-!
# File trees

The files and directories of a system, with a working directory.  A path is followed piece by
piece, and each way in which that can fail has its fault.  Directories are created and files are
renamed as the operations of these names do, with the same faults in the same order.
-/

namespace ConfigTemplate

/-- The content of a file: a text, or bytes that are not UTF-8. -/
inductive Content where
  | text (s : String)
  | binary (bytes : List UInt8)
deriving DecidableEq

/-- The content of some bytes. -/
def Content.ofBytes (bytes : ByteArray) : Content :=
  match String.fromUTF8? bytes with
  | some s => .text s
  | none => .binary bytes.toList

/-- A file or a directory. -/
inductive Entry where
  | file (content : Content)
  | directory
deriving DecidableEq

/-- The names that lead from the root to an entry. -/
abbrev Location := List String

/-- The entries of a system under their locations, and the working directory.  The root itself is
always there. -/
structure FileTree where
  entries : List (Location × Entry)
  workingDirectory : Location
deriving DecidableEq

namespace FileTree

/-- A tree with nothing but the working directory and the directories above it. -/
def ofWorkingDirectory (location : Location) : FileTree where
  entries := (List.range location.length).map fun n => (location.take (n + 1), .directory)
  workingDirectory := location

/-- The entry at a location. -/
def entry? (tree : FileTree) (location : Location) : Option Entry :=
  if location.isEmpty then some .directory else tree.entries.lookup location

/-- Puts an entry at a location, over one that is there. -/
def put (tree : FileTree) (location : Location) (entry : Entry) : FileTree :=
  { tree with entries := (location, entry) :: tree.entries.filter (·.1 != location) }

/-- Takes away the entry at a location. -/
def remove (tree : FileTree) (location : Location) : FileTree :=
  { tree with entries := tree.entries.filter (·.1 != location) }

/-- The greatest length of a name in bytes. -/
def nameLimit : Nat := 255

/-- The length in bytes from which a path is refused. -/
def pathLimit : Nat := 4096

/-- Goes one piece further from a directory. -/
def follow (tree : FileTree) (directory : Location) (piece : String) :
    Except FileFault (Location × Entry) :=
  if piece == "." then .ok (directory, .directory)
  else if piece == ".." then .ok (directory.dropLast, .directory)
  else if nameLimit < piece.utf8ByteSize then .error .nameTooLong
  else
    match tree.entry? (directory ++ [piece]) with
    | some entry => .ok (directory ++ [piece], entry)
    | none => .error .notFound

/-- Goes through pieces that all have to be directories. -/
def walk (tree : FileTree) (directory : Location) : List String → Except FileFault Location
  | [] => .ok directory
  | piece :: rest => do
    match ← tree.follow directory piece with
    | (next, .directory) => tree.walk next rest
    | (_, .file _) => .error .notDirectory

/-- Refuses the paths that the system does not look at. -/
def checkPath (path : String) : Except FileFault Unit :=
  if path.toList.contains '\x00' then .error .nulInPath
  else if path.isEmpty then .error .notFound
  else if pathLimit ≤ path.utf8ByteSize then .error .nameTooLong
  else .ok ()

/-- The directory in which a path ends, and the last piece, if there is one. -/
def parent (tree : FileTree) (path : String) : Except FileFault (Location × Option String) := do
  checkPath path
  let pieces := Path.pieces path
  let start := if Path.isAbsolute path then [] else tree.workingDirectory
  let directory ← tree.walk start pieces.dropLast
  return (directory, pieces.getLast?)

/-- The entry that a path leads to. -/
def find (tree : FileTree) (path : String) : Except FileFault (Location × Entry) := do
  match ← tree.parent path with
  | (directory, none) => .ok (directory, .directory)
  | (directory, some last) =>
    match ← tree.follow directory last with
    | (location, .directory) => .ok (location, .directory)
    | (location, .file content) =>
      if Path.endsInSlash path then .error .notDirectory else .ok (location, .file content)

/-- Whether a path leads to a file or directory. -/
def present (tree : FileTree) (path : String) : Bool :=
  match tree.find path with
  | .ok _ => true
  | .error _ => false

/-- Whether a path leads to a directory. -/
def isDirectory (tree : FileTree) (path : String) : Bool :=
  match tree.find path with
  | .ok (_, .directory) => true
  | _ => false

/-- The text of the file at a path. -/
def read (tree : FileTree) (path : String) : Except FileFault String :=
  match tree.find path with
  | .error fault => .error fault
  | .ok (_, .directory) => .error .isDirectory
  | .ok (_, .file (.binary _)) => .error .notText
  | .ok (_, .file (.text s)) => .ok s

/-- A name that a new entry can have: not one of the two special pieces, and not too long. -/
def newName (last : Option String) : Except FileFault String :=
  match last with
  | none => .error .exists
  | some name =>
    if name == "." || name == ".." then .error .exists
    else if nameLimit < name.utf8ByteSize then .error .nameTooLong
    else .ok name

/-- The directory and the name of a new entry at a path. -/
def newPlace (tree : FileTree) (path : String) : Except FileFault (Location × String) := do
  let (directory, last) ← tree.parent path
  return (directory, ← newName last)

/-- Creates a directory in one that is there. -/
def createDirectory (tree : FileTree) (path : String) : Except FileFault FileTree := do
  let (directory, name) ← tree.newPlace path
  match tree.entry? (directory ++ [name]) with
  | some _ => .error .exists
  | none => .ok (tree.put (directory ++ [name]) .directory)

/-- The path of components, from the root or from the working directory. -/
def pathOf (absolute : Bool) (components : List String) : String :=
  (if absolute then "/" else "") ++ "/".intercalate components

/-- Creates a directory and the missing ones above it; `reversed` are its components from the last
to the first.  The whole path is tried first, and the one above it only if something on the way is
missing.  What was created before a fault stays. -/
def createDirectories (absolute : Bool) (tree : FileTree) (reversed : List String) :
    Except FileFault Unit × FileTree :=
  match reversed with
  | [] => (.ok (), tree)
  | _ :: above =>
    let path := pathOf absolute reversed.reverse
    match tree.createDirectory path with
    | .ok tree => (.ok (), tree)
    | .error .notFound =>
      match createDirectories absolute tree above with
      | (.error fault, tree) => (.error fault, tree)
      | (.ok (), tree) =>
        match tree.createDirectory path with
        | .ok tree => (.ok (), tree)
        | .error fault => if tree.isDirectory path then (.ok (), tree) else (.error fault, tree)
    | .error fault => if tree.isDirectory path then (.ok (), tree) else (.error fault, tree)

/-- The fault of moving a file over another one, where a new file would have had this fault. -/
def replacingFault : FileFault → FileFault
  | .exists => .busy
  | .nulInPath => .invalidArgument
  | fault => fault

/-- Moves a file to a path.  A file that is there is replaced if `replacing` holds, and otherwise
nothing may be there. -/
def rename (tree : FileTree) (source : Location) (content : Content) (path : String)
    (replacing : Bool) : Except FileFault FileTree := do
  let (directory, name) ← (tree.newPlace path).mapError fun fault =>
    if replacing then replacingFault fault else fault
  let target := directory ++ [name]
  let move : Except FileFault FileTree :=
    if Path.endsInSlash path then .error .notDirectory
    else .ok ((tree.remove source).put target (.file content))
  match tree.entry? target with
  | none => move
  | some entry =>
    if !replacing then .error .exists
    else if Path.endsInSlash path then .error .notDirectory
    else if entry == .directory then .error .isDirectory
    else move

/-- The names of a location in the order in which listings are sorted. -/
def listedName (entry : Location × Entry) : String :=
  "/".intercalate entry.1 ++ (if entry.2 == .directory then "/" else "")

/-- What is below the working directory, each under its path from there, sorted by path.  The path
of a directory ends in a slash. -/
def listing (tree : FileTree) : List (String × Entry) :=
  let depth := tree.workingDirectory.length
  let below := tree.entries.filter fun (location, _) =>
    depth < location.length && location.take depth == tree.workingDirectory
  sortEntries (below.map fun (location, entry) =>
    (listedName (location.drop depth, entry), entry))

end FileTree

end ConfigTemplate
