import ConfigTemplate.CommandLine.Help
import ConfigTemplate.CommandLine.Requirements
import ConfigTemplate.CommandLine.Session
import Std.Time.Format

/-!
# The command line tool

Looks up the files, variables and paths that a command asks for, lets the command come to its
plan, and carries the plan out.
-/

namespace ConfigTemplate

namespace Shell

/-- The error number of a code, which some operations give with its sign changed. -/
def errorNumber (code : UInt32) : Nat :=
  if code.toNat < 0x80000000 then code.toNat else 0x100000000 - code.toNat

/-- The fault of an access that the system refused. -/
def faultOf (e : IO.Error) : FileFault :=
  match e with
  | .noFileOrDirectory _ _ _ => .notFound
  | .alreadyExists _ _ _ => .exists
  | .resourceBusy _ _ => .busy
  | .inappropriateType _ code _ | .invalidArgument _ code _ =>
    match errorNumber code with
    | 20 => .notDirectory
    | 21 => .isDirectory
    | 22 => .invalidArgument
    | 36 => .nameTooLong
    | _ => .other (toString e)
  | _ => .other (toString e)

/-- Does something that the system may refuse. -/
def attempt {α : Type} (action : IO α) : IO (Except FileFault α) := do
  try return .ok (← action)
  catch e => return .error (faultOf e)

/-- The text of the file at a path. -/
def readText (path : String) : IO (Except FileFault String) := do
  match ← attempt (IO.FS.readBinFile path) with
  | .error fault => return .error fault
  | .ok bytes =>
    match Content.ofBytes bytes with
    | .text s => return .ok s
    | .binary _ => return .error .notText

/-- Whether a path leads anywhere. -/
def present (path : String) : IO Bool := do
  match ← attempt (IO.FS.realPath path) with
  | .ok _ => return true
  | .error _ => return false

/-- The values of variables that are set. -/
def setVariables (names : List String) : IO (List (String × String)) := do
  let found ← names.mapM fun name => do
    return (← IO.getEnv name).map fun value => (name, value)
  return found.filterMap id

/-- What a command can look at, all of it looked up beforehand. -/
def surroundings (command : Command) (tool : List (String × String)) : IO Surroundings := do
  let texts ← command.filesRead.mapM fun path => do return (path, ← readText path)
  let read (path : String) : Except FileFault String := (texts.lookup path).getD (.error .notFound)
  let known : Surroundings := ⟨.ofList tool, read, fun _ => true⟩
  let values := tool ++ (← setVariables (command.variablesRead known))
  let known := { known with environment := .ofList values }
  let paths ← (command.pathsChecked known).mapM fun path => do return (path, ← present path)
  return { known with present := fun path => (paths.lookup path).getD false }

/-- Creates a directory and the missing ones above it, as `FileTree.createDirectories` does. -/
def createDirectories (absolute : Bool) (reversed : List String) : IO (Except FileFault Unit) :=
  match reversed with
  | [] => return .ok ()
  | _ :: above => do
    let path := FileTree.pathOf absolute reversed.reverse
    let settle (result : Except FileFault Unit) : IO (Except FileFault Unit) := do
      match result with
      | .ok () => return .ok ()
      | .error fault => if ← present (path ++ "/") then return .ok () else return .error fault
    match ← attempt (IO.FS.createDir path) with
    | .error .notFound =>
      match ← createDirectories absolute above with
      | .error fault => return .error fault
      | .ok () => settle (← attempt (IO.FS.createDir path))
    | result => settle result

/-- The directory of the file at a path. -/
def directoryOf (path : String) : String :=
  let directory := FileTree.pathOf (Path.isAbsolute path) (Path.components path).dropLast
  if directory.isEmpty then "." else directory

/-- Writes a file in two steps, as `FileTree.write` does. -/
def write (w : Writing) : IO (Except Error Unit) := do
  let taken : IO Bool := do return !w.replacing && (← present w.path)
  if ← taken then return .error (.outputExists w.path)
  let above := (Path.components w.path).dropLast
  let staged := Path.join (directoryOf w.path) (FileTree.stagingName (← IO.monoNanosNow))
  let staging ←
    match ← createDirectories (Path.isAbsolute w.path) above.reverse with
    | .ok () => attempt (IO.FS.writeFile staged w.text)
    | .error fault => pure (.error fault)
  match staging with
  | .error fault => return .error (.file fault)
  | .ok () =>
    if ← taken then
      IO.FS.removeFile staged
      return .error (.outputExists w.path)
    match ← attempt (IO.FS.rename staged w.path) with
    | .ok () => return .ok ()
    | .error fault =>
      IO.FS.removeFile staged
      return .error (.file fault)

/-- Carries a plan out: what is logged meanwhile, and how it ends. -/
def carryOut (plan : Plan) : IO (Except Error Unit × List LogLine) := do
  let written : Except Error (List LogLine) ←
    match plan.writing with
    | none => pure (.ok [])
    | some w =>
      match ← write w with
      | .error e => pure (.error e)
      | .ok () => pure (.ok [FileTree.writtenLine w.path w.text])
  match written with
  | .error e => return (.error e, [])
  | .ok log =>
    IO.print plan.output
    return (plan.verdict, log)

/-- The time of a run. -/
def now : IO Moment := do
  let time ← Std.Time.PlainDateTime.now
  return ⟨time.format "uuuuMMdd_HHmmss", time.format "uuuu-MM-dd HH:mm:ss"⟩

/-- Starts a log file, as `FileTree.openLog` does. -/
def openLogAt (directory path : String) : IO (Except FileFault Unit) := do
  let asked := (Path.components directory).reverse
  match ← createDirectories (Path.isAbsolute directory) asked with
  | .error fault => return .error fault
  | .ok () =>
    let above := (Path.components path).dropLast.reverse
    match ← createDirectories (Path.isAbsolute path) above with
    | .error fault => return .error fault
    | .ok () => attempt (IO.FS.writeFile path "")

/-- Starts the log file of a run, if there is to be one. -/
def openLog (logging : Logging) (moment : Moment) : IO (Except Error (Option String)) := do
  match logging.directory with
  | none => return .ok none
  | some directory =>
    let path := logFilePath directory moment.stamp
    let values ← setVariables (LogPath.variablesIn path.toList)
    let path := LogPath.expand (.ofList values) path
    match ← openLogAt directory path with
    | .ok () => return .ok (some path)
    | .error fault => return .error (Logging.failure directory fault)

/-- Runs an invocation, and gives its exit code. -/
def run (i : Invocation) (tool : List (String × String)) : IO Nat := do
  let logging := Logging.of (.ofList tool) i
  let moment ← now
  let screen ← (← IO.getStderr).isTty
  logging.warnings.forM fun warning => IO.eprintln warning
  let result ←
    match ← openLog logging moment with
    | .error e => pure (.error e)
    | .ok file =>
      let colored := i.colored (← (← IO.getStdout).isTty)
      let planned := i.command.plan colored (← surroundings i.command tool)
      let (result, log) ←
        match planned.result with
        | .error e => pure (.error e, [])
        | .ok plan => carryOut plan
      let log := planned.log ++ log
      (logging.shown log).forM fun line => IO.eprintln (logging.shownLine line)
      file.forM fun path => IO.FS.writeFile path (logging.fileText moment.text log)
      pure result
  match result with
  | .ok () => pure ()
  | .error e => IO.eprintln (e.report (i.colored screen))
  return exitCode result

end Shell

end ConfigTemplate

open ConfigTemplate in
/-- The tool: reads the words of the command line and runs the command that they name. -/
def main (words : List String) : IO UInt32 := do
  let tool ← Shell.setVariables toolVariables
  match Invocation.ofWords (.ofList tool) words with
  | .ok i => return (← Shell.run i tool).toUInt32
  | .error usage =>
    if usage.exitCode == 0 then IO.print usage.text else IO.eprint usage.text
    return usage.exitCode.toUInt32
