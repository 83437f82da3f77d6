import ConfigTemplate.Bindings.Sources
import ConfigTemplate.CommandLine.Invocation
import ConfigTemplate.CommandLine.Plan
import ConfigTemplate.Presentation

/-!
# Rendering from the command line

Values come from the environment, from a file and from the command line, and each source goes
before the ones in front of it.  Unless validation is switched off, a rendered template is printed
or written only if the configuration that it is has no errors.
-/

namespace ConfigTemplate

/-- The configuration that a rendered template is. -/
def Rendered.config (r : Rendered) : Except Error Training.Config :=
  Training.Config.ofValue r.value

namespace RenderRequest

/-- The bindings by variables named like the placeholders of the template, if they are asked
for. -/
def environmentBindings (a : RenderRequest) (s : Surroundings) (t : Template) :
    Logged Bindings :=
  if a.fromEnvironment then do
    let found ← Logged.withContext "Invalid value in environment"
      (Logged.ofExcept (Bindings.ofVariables t.placeholders s.environment))
    Logged.debug .renderCommand (toString found.size ++ " value(s) from the environment")
    return found
  else return .empty

/-- The bindings in the file of values, if there is one. -/
def fileBindings (a : RenderRequest) (s : Surroundings) : Logged Bindings :=
  match a.vars with
  | some path => do
    let found ← Logged.withContext ("Invalid vars file " ++ path)
      (Bindings.ofFile path (s.read path))
    Logged.debug .renderCommand (toString found.size ++ " value(s) from " ++ path)
    return found
  | none => return .empty

/-- The bindings of the pairs on the command line. -/
def pairBindings (a : RenderRequest) : Logged Bindings := do
  let found ← Logged.ofExcept (Bindings.ofPairs a.set)
  Logged.debug .renderCommand (toString found.size ++ " value(s) from --set")
  return found

/-- The bindings of all sources.  A name that several sources give has the value of the last. -/
def bindings (a : RenderRequest) (s : Surroundings) (t : Template) : Logged Bindings := do
  let environment ← a.environmentBindings s t
  let file ← a.fileBindings s
  let pairs ← a.pairBindings
  return (environment.merge file).merge pairs

/-- The report on a rendered template, if it is to be validated.  One with errors is refused. -/
def validated (settings : Settings) (s : Surroundings) (r : Rendered) : Logged (Option Report) :=
  if settings.validate then do
    let config ← Logged.withContext "Rendered config does not match the training config layout"
      (Logged.ofExcept r.config)
    let report ← validateLogged (s.pathCheck settings.checkPaths) config
    if report.passed then return some report
    else throw (Error.validationFailed report.errors.length)
  else return none

/-- A rendered template with all that its making involved. -/
structure Product where
  template : Template
  bindings : Bindings
  rendered : Rendered
  /-- The report, unless validation is switched off. -/
  report : Option Report

/-- The rendered template that the options ask for. -/
def product (a : RenderRequest) (s : Surroundings) : Logged Product := do
  let settings := a.settings s.environment
  let t ← Template.load a.template s.read
  Logged.info .renderCommand ("Rendering " ++ t.name ++ " (" ++ toString t.placeholders.length
    ++ " placeholder(s))")
  let b ← a.bindings s t
  let rendered ← t.renderLogged b settings.renderMode
  let report ← validated settings s rendered
  return ⟨t, b, rendered, report⟩

/-- The outcome of a validation that was passed or left out. -/
def validationText : Option Report → String
  | none => "skipped"
  | some report =>
    if report.warnings.isEmpty then "passed"
    else "passed with " ++ toString report.warnings.length ++ " warning(s)"

/-- What is printed about a file that was written. -/
def summary (colored : Bool) (p : Product) (path : String) : String :=
  Presentation.completionSummary colored "Render" "Config rendered" [⟨"", [
    ⟨"Template", p.template.origin.getD p.template.name, false⟩,
    ⟨"Values", toString p.bindings.size, false⟩,
    ⟨"Validation", validationText p.report, false⟩,
    ⟨"Output", path, true⟩]⟩]

/-- The plan: to print the rendered template, or to write it and to print a summary. -/
def plan (colored : Bool) (a : RenderRequest) (s : Surroundings) : Logged Plan := do
  let p ← a.product s
  match a.target? (a.settings s.environment) with
  | none => return .print p.rendered.text
  | some path =>
    return {
      writing := some ⟨path, p.rendered.text, a.force⟩
      output := summary colored p path
      verdict := .ok () }

end RenderRequest

end ConfigTemplate
