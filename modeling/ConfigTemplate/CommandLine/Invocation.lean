import ConfigTemplate.CommandLine.Usage
import ConfigTemplate.Files.Path
import ConfigTemplate.Settings

/-!
# Invocations

The commands of the tool with their options, and how a command line names one of them.
-/

namespace ConfigTemplate

/-- The options of the command that renders a template. -/
structure RenderRequest where
  template : Option String
  vars : Option String
  set : List String
  fromEnvironment : Bool
  output : Option String
  outputDirectory : Option String
  runName : Option String
  pretty : Bool
  allowUnknown : Bool
  noValidate : Bool
  checkPaths : Bool
  force : Bool
deriving DecidableEq

/-- A command with its options. -/
inductive Command where
  | render (request : RenderRequest)
  | placeholders (template : Option String) (json : Bool)
  | validate (config : String) (checkPaths json : Bool)
  | template
deriving DecidableEq

/-- A command and the options that every command has. -/
structure Invocation where
  command : Command
  verbose : Bool
  noColor : Bool
  logDirectory : Option String
deriving DecidableEq

namespace RenderRequest

/-- The settings that the options make. -/
def explicitSettings (a : RenderRequest) : ExplicitSettings where
  outputDirectory := a.outputDirectory
  strict := if a.allowUnknown then some false else none
  pretty := if a.pretty then some true else none
  checkPaths := if a.checkPaths then some true else none
  validate := if a.noValidate then some false else none

/-- The settings for a command with these options. -/
def settings (a : RenderRequest) (environment : Environment) : Settings :=
  .ofExplicit environment a.explicitSettings

/-- Where the configuration is written; nowhere if it is printed. -/
def target? (a : RenderRequest) (settings : Settings) : Option String :=
  match a.output, a.runName with
  | some path, _ => some path
  | none, some runName => some (runConfigPath settings.outputDirectory runName)
  | none, none => none

end RenderRequest

namespace Invocation

/-- The options of every command. -/
def globalOptions : List OptionSpec := [
  ⟨"verbose", some 'v', .flag⟩,
  ⟨"log-dir", none, .path⟩,
  ⟨"no-color", none, .flag⟩,
  ⟨"help", some 'h', .help⟩]

/-- The options of the command that renders a template. -/
def renderOptions : List OptionSpec := [
  ⟨"template", none, .path⟩,
  ⟨"vars", none, .path⟩,
  ⟨"set", none, .repeated⟩,
  ⟨"from-env", none, .flag⟩,
  ⟨"output", some 'o', .path⟩,
  ⟨"output-dir", none, .path⟩,
  ⟨"run-name", none, .value⟩,
  ⟨"pretty", none, .flag⟩,
  ⟨"allow-unknown", none, .flag⟩,
  ⟨"no-validate", none, .flag⟩,
  ⟨"check-paths", none, .flag⟩,
  ⟨"force", none, .flag⟩]

/-- The words that name a command. -/
def commandNames : List String := ["render", "placeholders", "validate", "template"]

/-- What may stand in front of a command. -/
def topSpec : CommandSpec where
  options := globalOptions ++ [⟨"version", some 'V', .version⟩]
  positional := none
  subcommands := commandNames ++ ["help"]

/-- What may stand after a command. -/
def commandSpec (name : String) : CommandSpec :=
  let options :=
    if name == "render" then renderOptions
    else if name == "placeholders" then [⟨"template", none, .path⟩, ⟨"json", none, .flag⟩]
    else if name == "validate" then [⟨"check-paths", none, .flag⟩, ⟨"json", none, .flag⟩]
    else []
  { options := options ++ globalOptions
    positional := if name == "validate" then some ⟨"config", none, .path⟩ else none
    subcommands := [] }

/-- The template path: that of the option, or else that of a variable, which must not be empty. -/
def templateOf (environment : Environment) (a : Arguments) :
    Except UsageError (Option String) :=
  match a.value? "template", environment "DSTEMPLATE_TEMPLATE" with
  | some path, _ => .ok (some path)
  | none, some path => if path.isEmpty then .error .invalidValue else .ok (some path)
  | none, none => .ok none

/-- The render command of its arguments.  An output file excludes the options that build its name,
and a directory needs a run name. -/
def renderCommand (environment : Environment) (a : Arguments) : Except UsageError Command := do
  let template ← templateOf environment a
  if a.has "output" && (a.has "output-dir" || a.has "run-name") then .error .argumentConflict
  else if a.has "output-dir" && !a.has "run-name" then .error .missingRequiredArgument
  else
    return .render {
      template := template
      vars := a.value? "vars"
      set := a.valuesOf "set"
      fromEnvironment := a.has "from-env"
      output := a.value? "output"
      outputDirectory := a.value? "output-dir"
      runName := a.value? "run-name"
      pretty := a.has "pretty"
      allowUnknown := a.has "allow-unknown"
      noValidate := a.has "no-validate"
      checkPaths := a.has "check-paths"
      force := a.has "force" }

/-- The command of a name with its arguments. -/
def commandOf (environment : Environment) (name : String) (a : Arguments) :
    Except UsageError Command :=
  if name == "render" then renderCommand environment a
  else if name == "placeholders" then
    (templateOf environment a).map fun template => .placeholders template (a.has "json")
  else if name == "validate" then
    match a.value? "config" with
    | some config => .ok (.validate config (a.has "check-paths") (a.has "json"))
    | none => .error .missingRequiredArgument
  else .ok .template

/-- The answer to the words after `help`: at most one, which names a command. -/
def helpAnswer : List String → UsageError
  | [] => .help
  | [name] => if topSpec.subcommands.contains name then .help else .invalidSubcommand
  | _ => .invalidSubcommand

/-- The invocation that the words of a command line are. -/
def ofWords (environment : Environment) (words : List String) : Except UsageError Invocation := do
  match ← Arguments.start.read topSpec words with
  | (top, none) =>
    let top ← top.settle
    .error (if top.values.isEmpty then .helpOnMissingArguments else .missingSubcommand)
  | (top, some (name, rest)) =>
    if name == "help" then .error (helpAnswer rest)
    else
      let (own, _) ← Arguments.start.read (commandSpec name) rest
      let own ← own.settle
      let command ← commandOf environment name own
      let top ← top.settle
      let logDirectory :=
        match own.value? "log-dir" with
        | some path => some path
        | none => top.value? "log-dir"
      return {
        command := command
        verbose := top.has "verbose" || own.has "verbose"
        noColor := top.has "no-color" || own.has "no-color"
        logDirectory := logDirectory }

end Invocation

end ConfigTemplate
