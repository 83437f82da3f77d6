import ConfigTemplate.Json.Codec
import ConfigTemplate.Log

/-!
# Validation reports

A report is a list of messages and a verdict.  A report that is built message by message passes
exactly as long as it holds no error; a report read from a document keeps the verdict it came
with until an error is added.
-/

namespace ConfigTemplate

/-- How grave a message is. -/
inductive Severity where
  | info
  | warning
  | error
deriving DecidableEq

namespace Severity

/-- The name of a severity in a report. -/
def label : Severity → String
  | .info => "INFO"
  | .warning => "WARNING"
  | .error => "ERROR"

/-- The name of a severity in a document. -/
def word : Severity → String
  | .info => "Info"
  | .warning => "Warning"
  | .error => "Error"

/-- The place of a severity in the order of gravity. -/
def rank : Severity → Nat
  | .info => 0
  | .warning => 1
  | .error => 2

/-- The graver of two severities. -/
def max (a b : Severity) : Severity := if a.rank < b.rank then b else a

/-- The level at which a message is logged. -/
def logLevel : Severity → LogLevel
  | .info => .debug
  | .warning => .warn
  | .error => .error

/-- The JSON form. -/
def codec : Json.Codec Severity :=
  .choice [("Info", .info), ("Warning", .warning), ("Error", .error)] word

end Severity

/-- A message of a report. -/
structure Message where
  text : String
  severity : Severity
  category : String
deriving DecidableEq

namespace Message

/-- A message as a line. -/
def line (m : Message) : String :=
  "[" ++ m.severity.label ++ "] " ++ m.category ++ ": " ++ m.text

/-- The line that logs a message. -/
def logLine (m : Message) : LogLine := ⟨m.severity.logLevel, .report, m.line⟩

open Json.Codec (string) in
/-- The JSON form. -/
def codec : Json.Codec Message :=
  Json.Codec.convert
    (.plainRecord "ValidationMessage"
      (.and (.field "message" string) (.and (.field "level" Severity.codec)
        (.field "category" string))))
    (fun (text, severity, category) => ⟨text, severity, category⟩)
    (fun m => (m.text, m.severity, m.category))

end Message

/-- Messages and a verdict. -/
structure Report where
  messages : List Message
  passed : Bool
deriving DecidableEq

namespace Report

/-- A report without messages. -/
def empty : Report := ⟨[], true⟩

/-- Adds a message at the end; an error turns the verdict. -/
def add (r : Report) (m : Message) : Report :=
  ⟨r.messages ++ [m], r.passed && m.severity != .error⟩

/-- The report of a list of messages. -/
def ofMessages (messages : List Message) : Report := messages.foldl add empty

/-- The messages of a severity. -/
def withSeverity (r : Report) (severity : Severity) : List Message :=
  r.messages.filter (·.severity == severity)

/-- The errors of a report. -/
def errors (r : Report) : List Message := r.withSeverity .error

/-- The warnings of a report. -/
def warnings (r : Report) : List Message := r.withSeverity .warning

/-- The notes of a report. -/
def infos (r : Report) : List Message := r.withSeverity .info

/-- The gravest severity of a message. -/
def maxSeverity? (r : Report) : Option Severity :=
  match r.messages.map (·.severity) with
  | [] => none
  | first :: rest => some (rest.foldl Severity.max first)

/-- A report as text: the verdict and a line for each message. -/
def text (r : Report) : String :=
  let verdict := if r.passed then "PASSED" else "FAILED"
  "Validation " ++ verdict ++ "\n"
    ++ String.join (r.messages.map fun m => "  " ++ m.line ++ "\n")

/-- The JSON form. -/
def codec : Json.Codec Report :=
  Json.Codec.convert
    (.plainRecord "ValidationReport"
      (.and (.field "messages" (.list Message.codec)) (.field "passed" .boolean)))
    (fun (messages, passed) => ⟨messages, passed⟩)
    (fun r => (r.messages, r.passed))

/-- The JSON value of a report, its members in the order of the fields. -/
def written (r : Report) : Json.Value := codec.write r

end Report

end ConfigTemplate
