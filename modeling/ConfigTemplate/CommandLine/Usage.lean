/-!
# Words of a command line

The words of a command line are options, the values of options, and one positional argument.  An
option is long (`--name`, `--name=value`) or short (`-n`, `-nvalue`, several flags in one word);
the value may also be the next word, unless that word starts with a hyphen and is longer.  After
`--` every word is positional.  A value that has been given is looked at when the next word needs
to be placed, so of two mistakes the one in the earlier word usually decides, but a word that
cannot be placed at all is reported at once.
-/

namespace ConfigTemplate

/-- The reasons for which a command line is not carried out as a command. -/
inductive UsageError where
  | argumentConflict
  | missingRequiredArgument
  | invalidValue
  | tooManyValues
  | unknownArgument
  | invalidSubcommand
  | missingSubcommand
  | helpOnMissingArguments
  | help
  | version
deriving DecidableEq

/-- Help and version are asked for, and so are no failure. -/
def UsageError.exitCode : UsageError → Nat
  | .help | .version => 0
  | _ => 2

/-- What an option does when it is met. -/
inductive OptionKind where
  /-- Sets a flag. -/
  | flag
  /-- Takes a value, at most once. -/
  | value
  /-- Takes a value that is a path, so not empty, at most once. -/
  | path
  /-- Takes a value each time. -/
  | repeated
  /-- Asks for help. -/
  | help
  /-- Asks for the version. -/
  | version
deriving DecidableEq

/-- The option is followed by a value. -/
def OptionKind.takesValue : OptionKind → Bool
  | .value | .path | .repeated => true
  | .flag | .help | .version => false

/-- An option. -/
structure OptionSpec where
  name : String
  short : Option Char
  kind : OptionKind
deriving DecidableEq

/-- What may stand on a command line at one level. -/
structure CommandSpec where
  options : List OptionSpec
  positional : Option OptionSpec
  subcommands : List String

/-- What has been read of a command line at one level. -/
structure Arguments where
  /-- The options met, with their values. -/
  values : List (String × String)
  /-- An option whose value has not been looked at, with the value if it is there. -/
  pending : Option (OptionSpec × Option String)
  /-- The next word may be the value of the pending option. -/
  awaiting : Bool
  /-- All further words are positional. -/
  trailing : Bool
  /-- The positional argument has been given. -/
  placed : Bool
deriving DecidableEq

namespace Arguments

/-- Nothing has been read. -/
def start : Arguments := ⟨[], none, false, false, false⟩

/-- Whether an option was met. -/
def has (a : Arguments) (name : String) : Bool := a.values.any (·.1 == name)

/-- The value of an option that is given at most once. -/
def value? (a : Arguments) (name : String) : Option String := a.values.lookup name

/-- All values of an option in their order. -/
def valuesOf (a : Arguments) (name : String) : List String :=
  (a.values.filter (·.1 == name)).map Prod.snd

/-- Takes in an option with its value. -/
def accept (a : Arguments) (option : OptionSpec) (value : Option String) :
    Except UsageError Arguments :=
  let added : Arguments := { a with values := a.values ++ [(option.name, value.getD "")] }
  match option.kind, value with
  | .help, _ => .error .help
  | .version, _ => .error .version
  | .flag, _ => if a.has option.name then .error .argumentConflict else .ok added
  | .repeated, some _ => .ok added
  | .value, some _ => if a.has option.name then .error .argumentConflict else .ok added
  | .path, some text =>
    if a.has option.name then .error .argumentConflict
    else if text.isEmpty then .error .invalidValue
    else .ok added
  | .repeated, none | .value, none | .path, none => .error .invalidValue

/-- Takes in the pending option. -/
def settle (a : Arguments) : Except UsageError Arguments :=
  match a.pending with
  | none => .ok { a with awaiting := false }
  | some (option, value) => { a with pending := none, awaiting := false }.accept option value

/-- Takes in an option whose value, if it takes one, may be attached to it. -/
def meet (a : Arguments) (option : OptionSpec) (attached : Option String) :
    Except UsageError Arguments := do
  let a ← a.settle
  if option.kind.takesValue && attached.isNone then
    return { a with pending := some (option, none), awaiting := true }
  else a.accept option attached

/-- Reads a long option, given without its hyphens. -/
def readLong (spec : CommandSpec) (a : Arguments) (word : List Char) :
    Except UsageError Arguments :=
  let name := String.ofList (word.takeWhile (· != '='))
  let attached :=
    match word.dropWhile (· != '=') with
    | [] => none
    | _ :: value => some (String.ofList value)
  match spec.options.find? (·.name == name) with
  | none => .error .unknownArgument
  | some option =>
    if attached.isSome && !option.kind.takesValue then .error .tooManyValues
    else a.meet option attached

/-- Reads short options, given without the hyphen. -/
def readShort (spec : CommandSpec) (a : Arguments) : List Char → Except UsageError Arguments
  | [] => .ok a
  | c :: rest =>
    match spec.options.find? (·.short == some c) with
    | none => .error .unknownArgument
    | some option =>
      if option.kind.takesValue then
        match rest with
        | [] => a.meet option none
        | '=' :: value => a.meet option (some (String.ofList value))
        | value => a.meet option (some (String.ofList value))
      else do
        let a ← a.meet option none
        readShort spec a rest

/-- Reads a word that is no option and no value of one. -/
def readPositional (spec : CommandSpec) (a : Arguments) (word : String) :
    Except UsageError Arguments :=
  match spec.positional, a.placed with
  | some positional, false => do
    let a ← a.settle
    return { a with pending := some (positional, some word), placed := true }
  | _, _ =>
    if spec.subcommands.isEmpty || (a.trailing && spec.subcommands.contains word) then
      .error .unknownArgument
    else .error .invalidSubcommand

/-- Reads one word that is not a subcommand. -/
def readWord (spec : CommandSpec) (a : Arguments) (word : String) : Except UsageError Arguments :=
  if a.trailing then a.readPositional spec word
  else
    match word.toList with
    | ['-', '-'] => .ok { a with trailing := true }
    | '-' :: '-' :: long => a.readLong spec long
    | '-' :: c :: short => a.readShort spec (c :: short)
    | _ =>
      match a.awaiting, a.pending with
      | true, some (option, _) =>
        .ok { a with pending := some (option, some word), awaiting := false }
      | _, _ => a.readPositional spec word

/-- Reads words up to the end or to a subcommand, which is given with the words after it. -/
def read (spec : CommandSpec) (a : Arguments) :
    List String → Except UsageError (Arguments × Option (String × List String))
  | [] => .ok (a, none)
  | word :: rest =>
    if !a.trailing && !a.awaiting && spec.subcommands.contains word then
      .ok (a, some (word, rest))
    else do
      let a ← a.readWord spec word
      a.read spec rest

end Arguments

end ConfigTemplate
