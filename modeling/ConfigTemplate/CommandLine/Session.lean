import ConfigTemplate.CommandLine.Logging
import ConfigTemplate.CommandLine.Run

/-!
# A run of the tool

From the words of a command line to an exit code: the words are read, the log is set up, and the
command is run.
-/

namespace ConfigTemplate

/-- The time of a run, as it stands in the name of a log file and in front of its lines. -/
structure Moment where
  stamp : String
  text : String
deriving DecidableEq

/-- How a run of the tool ended. -/
structure Ending where
  exitCode : Nat
  /-- What was printed. -/
  output : String
  /-- What was complained about before the command was run. -/
  warnings : List String
  /-- The log lines that were shown. -/
  shown : List LogLine
  /-- The error that was reported last. -/
  error : Option Error
  files : FileTree

/-- The exit code of a command. -/
def exitCode : Except Error Unit → Nat
  | .ok () => 0
  | .error _ => 1

/-- The line that reports an error. -/
def Error.report (colored : Bool) (e : Error) : String :=
  Style.redBold.paint colored ("✗ Error: " ++ e.message)

namespace FileTree

/-- Starts a log file, after making the directory that was asked for and the one that the path of
the file leads to. -/
def openLog (tree : FileTree) (directory path : String) : Except FileFault Location × FileTree :=
  let make (tree : FileTree) (path : String) (components : List String) :=
    createDirectories (Path.isAbsolute path) tree components.reverse
  match make tree directory (Path.components directory) with
  | (.error fault, tree) => (.error fault, tree)
  | (.ok (), tree) =>
    match make tree path (Path.components path).dropLast with
    | (.error fault, tree) => (.error fault, tree)
    | (.ok (), tree) =>
      match tree.newPlace path with
      | .error fault => (.error fault, tree)
      | .ok (parent, name) =>
        (.ok (parent ++ [name]), tree.put (parent ++ [name]) (.file (.text "")))

end FileTree

namespace Invocation

/-- Whether output to a screen that has colours is coloured. -/
def colored (i : Invocation) (screen : Bool) : Bool := screen && !i.noColor

/-- Runs the command of an invocation with its log set up. -/
def runLogged (i : Invocation) (screen : Bool) (environment : Environment) (files : FileTree)
    (logging : Logging) : Ending :=
  let outcome := i.command.run (i.colored screen) environment files
  { exitCode := exitCode outcome.result
    output := outcome.output
    warnings := logging.warnings
    shown := logging.shown outcome.log
    error := match outcome.result with
      | .ok () => none
      | .error error => some error
    files := outcome.files }

/-- Runs an invocation. -/
def run (i : Invocation) (screen : Bool) (environment : Environment) (files : FileTree)
    (moment : Moment) : Ending :=
  let logging := Logging.of environment i
  match logging.directory with
  | none => i.runLogged screen environment files logging
  | some directory =>
    let path := LogPath.expand environment (logFilePath directory moment.stamp)
    match files.openLog directory path with
    | (.error fault, files) =>
      let error := Logging.failure directory fault
      ⟨1, "", logging.warnings, [], some error, files⟩
    | (.ok location, files) =>
      let ending := i.runLogged screen environment files logging
      let text := logging.fileText moment.text ending.shown
      { ending with files := ending.files.put location (.file (.text text)) }

end Invocation

/-- Runs the tool with the words of a command line.  Words that are no invocation end it at once,
with an exit code of their own. -/
def runWords (screen : Bool) (environment : Environment) (words : List String) (files : FileTree)
    (moment : Moment) : Ending :=
  match Invocation.ofWords environment words with
  | .error usage => ⟨usage.exitCode, "", [], [], none, files⟩
  | .ok i => i.run screen environment files moment

end ConfigTemplate
