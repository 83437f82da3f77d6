import ConfigTemplate.Training.Layout
import ConfigTemplate.Validation.Routing
import ConfigTemplate.Validation.Sampling

/-!
# Validation

A configuration is validated section by section.  The sections do not depend on each other, and
the report holds the messages of all of them.
-/

namespace ConfigTemplate

open Validation

/-- The messages of all sections. -/
def validationMessages (check : PathCheck) (c : Training.Config) : List Message :=
  batchMessages c ++ loggingMessages c ++ zeroMessages c ++ fp16Messages c ++ routingMessages c
    ++ curriculumMessages check c

/-- The report on a configuration. -/
def validate (check : PathCheck) (c : Training.Config) : Report :=
  .ofMessages (validationMessages check c)

/-- The line that sums a report up. -/
def Report.verdictLine (r : Report) : String :=
  let verdict := if r.passed then "passed" else "failed"
  "Validation " ++ verdict ++ ": " ++ toString r.errors.length ++ " error(s), "
    ++ toString r.warnings.length ++ " warning(s)"

/-- The report on a configuration, its messages logged as they are found and the verdict after
them. -/
def validateLogged (check : PathCheck) (c : Training.Config) : Logged Report :=
  let report := validate check c
  ⟨.ok report, report.messages.map Message.logLine ++ [⟨.info, .validation, report.verdictLine⟩]⟩

/-- The report on the configuration in a file, given what reading it gave. -/
def validateFile (check : PathCheck) (path : String) (content : Except FileFault String) :
    Logged Report := do
  Logged.info .validation ("Validating config file: " ++ path)
  let text ← Logged.ofExcept (content.mapError (Error.unreadable path))
  let config ← Logged.ofExcept (Training.Config.ofText text)
  validateLogged check config

end ConfigTemplate
