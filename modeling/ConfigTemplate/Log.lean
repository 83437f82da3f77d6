import ConfigTemplate.Error

/-!
# Log lines

An operation that logs gives the lines it wrote together with its result.  Lines written before
an error stay.
-/

namespace ConfigTemplate

/-- The importance of a log line, the most important first. -/
inductive LogLevel where
  | error
  | warn
  | info
  | debug
deriving DecidableEq

namespace LogLevel

/-- The name of a level in a log. -/
def name : LogLevel → String
  | .error => "ERROR"
  | .warn => "WARN"
  | .info => "INFO"
  | .debug => "DEBUG"

/-- The place of a level in the order of importance. -/
def rank : LogLevel → Nat
  | .error => 1
  | .warn => 2
  | .info => 3
  | .debug => 4

end LogLevel

/-- The parts of the tool that log. -/
inductive LogSource where
  | bindings
  | template
  | rendering
  | validation
  | report
  | output
  | renderCommand
  | validateCommand
deriving DecidableEq

/-- The name by which a part of the tool is addressed.  Parts of a part have names that its name
begins. -/
def LogSource.path : LogSource → String
  | .bindings => "dstemplate_core::bindings"
  | .template => "dstemplate_core::template"
  | .rendering => "dstemplate_core::render"
  | .validation => "dstemplate_core::validation"
  | .report => "dstemplate_core::validation::report"
  | .output => "dstemplate_core::output"
  | .renderCommand => "dstemplate_cli::commands::render"
  | .validateCommand => "dstemplate_cli::commands::validate"

/-- One line of a log. -/
structure LogLine where
  level : LogLevel
  source : LogSource
  message : String
deriving DecidableEq

/-- The result of an operation and the lines that it logged. -/
structure Logged (α : Type) where
  result : Except Error α
  log : List LogLine

namespace Logged

/-- A result without a log. -/
def ofExcept {α : Type} (result : Except Error α) : Logged α := ⟨result, []⟩

/-- One operation after the other; an error ends the sequence. -/
def bind {α β : Type} (first : Logged α) (next : α → Logged β) : Logged β :=
  match first.result with
  | .ok value => ⟨(next value).result, first.log ++ (next value).log⟩
  | .error error => ⟨.error error, first.log⟩

instance : Monad Logged where
  pure value := ofExcept (.ok value)
  bind := bind

instance : MonadExceptOf Error Logged where
  throw error := ofExcept (.error error)
  tryCatch first handle :=
    match first.result with
    | .ok _ => first
    | .error error => ⟨(handle error).result, first.log ++ (handle error).log⟩

instance : MonadLift (Except Error) Logged := ⟨ofExcept⟩

/-- Writes one line. -/
def line (level : LogLevel) (source : LogSource) (message : String) : Logged Unit :=
  ⟨.ok (), [⟨level, source, message⟩]⟩

/-- Writes a line that reports progress. -/
def info (source : LogSource) (message : String) : Logged Unit := line .info source message

/-- Writes a line for those who look for a fault. -/
def debug (source : LogSource) (message : String) : Logged Unit := line .debug source message

/-- Writes a warning. -/
def warn (source : LogSource) (message : String) : Logged Unit := line .warn source message

/-- The same log with the error put into a context. -/
def withContext {α : Type} (context : String) (x : Logged α) : Logged α :=
  ⟨ConfigTemplate.withContext context x.result, x.log⟩

end Logged

end ConfigTemplate
