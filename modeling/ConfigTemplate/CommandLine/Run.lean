import ConfigTemplate.CommandLine.Inventory
import ConfigTemplate.CommandLine.Rendering

/-!
# Running a command

Every command comes to a plan, which is then carried out on the files.
-/

namespace ConfigTemplate

/-- The plan of a validation: to print the report on the configuration in a file, and to fail if
there are errors in it. -/
def validationPlan (colored : Bool) (path : String) (checkPaths json : Bool) (s : Surroundings) :
    Logged Plan := do
  let report ← validateFile (s.pathCheck checkPaths) path (s.read path)
  let output :=
    if json then report.written.pretty ++ "\n"
    else Presentation.validationSummary colored path report
  if report.passed then
    Logged.info .validateCommand (path ++ " is valid")
    return .print output
  else
    return {
      writing := none
      output := output
      verdict := .error (.validationFailed report.errors.length) }

namespace Command

/-- The plan of a command. -/
def plan (colored : Bool) (command : Command) (s : Surroundings) : Logged Plan :=
  match command with
  | .render a => a.plan colored s
  | .placeholders path json => Inventory.plan colored path json s
  | .validate path checkPaths json => validationPlan colored path checkPaths json s
  | .template => return .print Template.builtin.source

/-- Runs a command in an environment on some files. -/
def run (colored : Bool) (command : Command) (environment : Environment) (files : FileTree) :
    Outcome :=
  (command.plan colored (.of environment files)).conclude files

end Command

end ConfigTemplate
