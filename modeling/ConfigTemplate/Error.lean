import ConfigTemplate.Files.Fault
import ConfigTemplate.Json.Fault

/-!
# Errors

The causes for which an operation is refused, and their wording.
-/

namespace ConfigTemplate

/-- The causes for which an operation is refused. -/
inductive Error where
  /-- A file could not be written. -/
  | file (fault : FileFault)
  /-- A file could not be read. -/
  | unreadable (path : String) (fault : FileFault)
  /-- The output is already there and is not to be replaced. -/
  | outputExists (path : String)
  /-- Placeholders without a value. -/
  | missingBindings (names : List String)
  /-- Values for placeholders that the template does not have. -/
  | unknownBindings (names : List String)
  /-- Bare words in the template that are no placeholders. -/
  | strayIdentifiers (names : List String)
  /-- A value outside the domain of its placeholder. -/
  | invalidValue (name reason : String)
  /-- A text that is no pair of a name and a value. -/
  | malformedBinding (text : String)
  /-- The rendered text is not JSON. -/
  | invalidJson (fault : Json.Fault)
  /-- A document is not JSON, or not of the expected type. -/
  | json (fault : Json.Fault)
  /-- The configuration breaks rules. -/
  | validationFailed (count : Nat)
  /-- Any other reason, already put into words. -/
  | operationFailed (message : String)
deriving DecidableEq

namespace Error

/-- Names in a message. -/
def listed (names : List String) : String := ", ".intercalate names

/-- The wording of an error. -/
def message : Error → String
  | .file fault => "I/O error: " ++ fault.message
  | .unreadable path fault => "Failed to read '" ++ path ++ "': " ++ fault.message
  | .outputExists path =>
    "Output file '" ++ path ++ "' already exists (use --force to overwrite)"
  | .missingBindings names => "Missing value for placeholder(s): " ++ listed names
  | .unknownBindings names =>
    "Value(s) given for placeholder(s) not present in the template: " ++ listed names
  | .strayIdentifiers names =>
    "Template contains bare identifier(s) that are not placeholders: " ++ listed names
  | .invalidValue name reason => "Invalid value for " ++ name ++ ": " ++ reason
  | .malformedBinding text => "Malformed binding '" ++ text ++ "' (expected KEY=VALUE)"
  | .invalidJson fault => "Rendered document is not valid JSON: " ++ fault.message
  | .json fault => "JSON error: " ++ fault.message
  | .validationFailed count =>
    "Configuration failed validation with " ++ toString count ++ " error(s)"
  | .operationFailed message => "Operation failed: " ++ message

/-- The error with a context in front of its message. -/
def within (context : String) (error : Error) : Error :=
  .operationFailed (context ++ ": " ++ error.message)

end Error

/-- A result, its error put into a context. -/
def withContext {α : Type} (context : String) (result : Except Error α) : Except Error α :=
  result.mapError (Error.within context)

/-- The value that has to be there, or else the context as an error. -/
def orContext {α : Type} (context : String) : Option α → Except Error α
  | some value => .ok value
  | none => .error (.operationFailed context)

end ConfigTemplate
