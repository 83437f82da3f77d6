import ConfigTemplate.CommandLine.Invocation
import ConfigTemplate.CommandLine.LogFilter
import ConfigTemplate.CommandLine.LogPath

/-!
# How a run of the tool logs

Lines up to a level are shown, by default those that report progress.  Without a log directory a
variable may describe another filter.  With one, the lines are written to a file in it as well.
-/

namespace ConfigTemplate

/-- How a run of the tool logs. -/
structure Logging where
  filter : LogFilter
  /-- What is complained about before the run. -/
  warnings : List String
  /-- Where the lines are also written to a file. -/
  directory : Option String
deriving DecidableEq

namespace Logging

/-- The logging that an invocation asks for. -/
def of (environment : Environment) (i : Invocation) : Logging :=
  let filter := LogFilter.uniform (.upTo (if i.verbose then .debug else .info))
  let description := if i.verbose || i.logDirectory.isSome then none else environment "RUST_LOG"
  let (filter, complaints) := (description.map filter.describedBy).getD (filter, [])
  ⟨filter, complaints.map fun text => "warning: " ++ text ++ ", ignoring it", i.logDirectory⟩

/-- The lines that are kept of a log. -/
def kept (l : Logging) (log : List LogLine) : List LogLine := log.filter l.filter.shows

/-- A message with the lines after its first one indented. -/
def indented (message : String) : String :=
  "\n    ".intercalate ((Text.splitAt '\n' message.toList).map String.ofList)

/-- The lines that are shown of a log.  Those that are not written to a file as well have their
further lines indented. -/
def shown (l : Logging) (log : List LogLine) : List LogLine :=
  if l.directory.isSome then l.kept log
  else (l.kept log).map fun line => { line with message := indented line.message }

/-- A line as it stands in a log file. -/
def fileLine (line : LogLine) : String := "[" ++ line.level.name ++ "] " ++ line.message

/-- A line as it is shown.  Without a log file the part of the tool that logged it is named. -/
def shownLine (l : Logging) (line : LogLine) : String :=
  if l.directory.isSome then fileLine line
  else
    let name := line.level.name
    "[" ++ name ++ String.ofList (List.replicate (5 - name.length) ' ') ++ " " ++ line.source.path
      ++ "] " ++ line.message

/-- The lines that a log file holds at the end, each with the time of the run in front of it. -/
def fileText (l : Logging) (time : String) (log : List LogLine) : String :=
  String.join ((l.kept log).map fun line => time ++ " " ++ fileLine line ++ "\n")

/-- The error of a log that could not be set up. -/
def failure (directory : String) (fault : FileFault) : Error :=
  .operationFailed ("Failed to set up logging in " ++ directory ++ ": " ++ fault.message)

end Logging

end ConfigTemplate
