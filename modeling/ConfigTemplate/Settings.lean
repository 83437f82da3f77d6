import ConfigTemplate.Domain
import ConfigTemplate.Template.Render

/-!
# Settings

The tool's own settings: where rendered configurations go, how strictly bindings are taken, and
what is validated.  Variables of the environment give the defaults, and explicit settings go
before them.
-/

namespace ConfigTemplate

/-- The environment: the value of each variable that is set. -/
abbrev Environment := String → Option String

/-- The environment of a list of variables with their values. -/
def Environment.ofList (entries : List (String × String)) : Environment :=
  fun name => entries.lookup name

/-- The settings of the tool. -/
structure Settings where
  /-- The directory of rendered configurations. -/
  outputDirectory : String
  /-- Refuse values for placeholders that the template does not have. -/
  strict : Bool
  /-- Write documents in the pretty form. -/
  pretty : Bool
  /-- Look the paths of the curriculum up. -/
  checkPaths : Bool
  /-- Validate rendered configurations. -/
  validate : Bool
deriving DecidableEq

/-- Settings of which each may be left to its default. -/
structure ExplicitSettings where
  outputDirectory : Option String := none
  strict : Option Bool := none
  pretty : Option Bool := none
  checkPaths : Option Bool := none
  validate : Option Bool := none
deriving DecidableEq

namespace Settings

/-- A truth value in a variable, blanks around it aside. -/
def parseFlag? (value : String) : Option Bool :=
  Domain.parseBoolean? (Text.trim value)

/-- The truth value of a variable; a variable that is not set, or holds something else, gives the
default. -/
def flagOf (environment : Environment) (name : String) (default : Bool) : Bool :=
  ((environment name).bind parseFlag?).getD default

/-- The path in a variable. -/
def pathOf (environment : Environment) (name default : String) : String :=
  (environment name).getD default

/-- The settings that the environment gives. -/
def ofEnvironment (environment : Environment) : Settings where
  outputDirectory := pathOf environment "DSTEMPLATE_OUTPUT_DIR" "."
  strict := flagOf environment "DSTEMPLATE_STRICT" true
  pretty := flagOf environment "DSTEMPLATE_PRETTY" false
  checkPaths := flagOf environment "DSTEMPLATE_CHECK_PATHS" false
  validate := true

/-- The explicit settings, with the defaults of the environment for the others. -/
def ofExplicit (environment : Environment) (explicit : ExplicitSettings) : Settings :=
  let defaults := ofEnvironment environment
  { outputDirectory := explicit.outputDirectory.getD defaults.outputDirectory
    strict := explicit.strict.getD defaults.strict
    pretty := explicit.pretty.getD defaults.pretty
    checkPaths := explicit.checkPaths.getD defaults.checkPaths
    validate := explicit.validate.getD defaults.validate }

/-- How these settings have templates rendered. -/
def renderMode (s : Settings) : RenderMode := { strict := s.strict, pretty := s.pretty }

end Settings

end ConfigTemplate
