import ConfigTemplate.Files.Output
import ConfigTemplate.Settings
import ConfigTemplate.Validation.Basic

/-!
# Plans

A command first reads all that it needs and comes to a plan: a file to be written, a text to be
printed, and how it ends.  Only a plan changes anything, and it does so in that order, so a
command that is refused on the way to its plan has printed and written nothing.
-/

namespace ConfigTemplate

/-- What a command can look at. -/
structure Surroundings where
  /-- The variables of the environment. -/
  environment : Environment
  /-- The text of the file at a path. -/
  read : String → Except FileFault String
  /-- Whether a path leads anywhere. -/
  present : String → Bool

/-- The surroundings that an environment and a file tree make. -/
def Surroundings.of (environment : Environment) (files : FileTree) : Surroundings :=
  ⟨environment, files.read, files.present⟩

/-- How validation looks paths up in these surroundings, if it is to do so. -/
def Surroundings.pathCheck (s : Surroundings) (checkPaths : Bool) : Validation.PathCheck :=
  if checkPaths then some s.present else none

/-- A file to be written. -/
structure Writing where
  path : String
  text : String
  /-- A file that is there may be replaced. -/
  replacing : Bool
deriving DecidableEq

/-- What a command does once it has read everything. -/
structure Plan where
  /-- The file to be written before anything is printed. -/
  writing : Option Writing
  /-- The text to be printed. -/
  output : String
  /-- How the command ends after that. -/
  verdict : Except Error Unit

/-- The plan of printing a text. -/
def Plan.print (output : String) : Plan := ⟨none, output, .ok ()⟩

/-- What has become of a command. -/
structure Outcome where
  /-- What was printed. -/
  output : String
  result : Except Error Unit
  log : List LogLine
  /-- The files afterwards. -/
  files : FileTree

namespace Outcome

/-- A refusal that left no trace. -/
def refused (error : Error) (log : List LogLine) (files : FileTree) : Outcome :=
  ⟨"", .error error, log, files⟩

end Outcome

namespace Plan

/-- Carries a plan out. -/
def carryOut (plan : Plan) (files : FileTree) : Outcome :=
  match plan.writing with
  | none => ⟨plan.output, plan.verdict, [], files⟩
  | some w =>
    match files.write w.path w.text w.replacing with
    | (.error error, files) => .refused error [] files
    | (.ok (), files) =>
      ⟨plan.output, plan.verdict, [FileTree.writtenLine w.path w.text], files⟩

end Plan

/-- What becomes of a command that came to a plan, or was refused on the way. -/
def Logged.conclude (planned : Logged Plan) (files : FileTree) : Outcome :=
  match planned.result with
  | .error error => .refused error planned.log files
  | .ok plan =>
    let outcome := plan.carryOut files
    { outcome with log := planned.log ++ outcome.log }

end ConfigTemplate
