import ConfigTemplate.CommandLine.Invocation

/-!
# Help

What is printed for words that are no invocation.
-/

namespace ConfigTemplate

/-- An option on a line of the help. -/
def OptionSpec.helpLine (o : OptionSpec) : String :=
  let short := match o.short with
    | some c => "-" ++ String.singleton c ++ ", "
    | none => "    "
  let value := if o.kind.takesValue then " <VALUE>" else ""
  "  " ++ short ++ "--" ++ o.name ++ value ++ "\n"

/-- The help on the tool. -/
def helpText : String :=
  "Renders, inspects and validates data-efficiency training configs built from a placeholder "
    ++ "template.\n\nUsage: dstemplate [OPTIONS] <COMMAND>\n\nCommands:\n"
    ++ String.join (Invocation.commandNames.map fun name => "  " ++ name ++ "\n"
      ++ String.join (((Invocation.commandSpec name).options.filter
          (!Invocation.globalOptions.contains ·)).map fun o => "  " ++ o.helpLine))
    ++ "\nOptions:\n" ++ String.join (Invocation.topSpec.options.map OptionSpec.helpLine)

/-- What is printed for words that are no invocation. -/
def UsageError.text : UsageError → String
  | .help | .helpOnMissingArguments => helpText
  | .version => "dstemplate 0.1.0\n"
  | .argumentConflict => "error: an argument is given twice or beside one that excludes it\n"
  | .missingRequiredArgument => "error: a required argument is missing\n"
  | .invalidValue => "error: an option has no value, or an empty one\n"
  | .tooManyValues => "error: a flag has a value\n"
  | .unknownArgument => "error: unexpected argument\n"
  | .invalidSubcommand => "error: unrecognized subcommand\n"
  | .missingSubcommand => "error: a subcommand is required but was not given\n"

end ConfigTemplate
