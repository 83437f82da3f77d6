import ConfigTemplate.Text.Basic

/-!
# Paths

A path is a text.  Its pieces stand between slashes; empty pieces do not count.  A slash at the
end asks for a directory.
-/

namespace ConfigTemplate

namespace Path

/-- The pieces of a path that are not empty. -/
def pieces (path : String) : List String :=
  ((Text.splitAt '/' path.toList).filter (!·.isEmpty)).map String.ofList

/-- The pieces without those that stand for the directory they are in. -/
def components (path : String) : List String :=
  (pieces path).filter (· != ".")

/-- The path starts at the root. -/
def isAbsolute (path : String) : Bool := path.toList.head? == some '/'

/-- The path asks for a directory. -/
def endsInSlash (path : String) : Bool := path.toList.getLast? == some '/'

/-- The name of the file that a path leads to. -/
def fileName? (path : String) : Option String :=
  match (components path).getLast? with
  | none => none
  | some last => if last == ".." then none else some last

/-- The path of a file in a directory; the empty text stands for the working directory. -/
def join (directory file : String) : String :=
  if directory.isEmpty || endsInSlash directory then directory ++ file
  else directory ++ "/" ++ file

end Path

/-- The path of the configuration of a run. -/
def runConfigPath (directory runName : String) : String :=
  Path.join directory ("ds_config_" ++ runName ++ ".json")

/-- The path of the log of a run. -/
def logFilePath (directory timestamp : String) : String :=
  Path.join directory ("dstemplate_" ++ timestamp ++ ".log")

end ConfigTemplate
