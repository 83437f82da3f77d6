import ConfigTemplate.Text.Basic

/-!
# What can be wrong with the text of a pattern

A fault is a cause and the piece of the text that it is about; some also concern an earlier piece.
The message of a fault shows the text with these pieces underlined.
-/

namespace ConfigTemplate.Pattern

/-- A place in a text: the number of characters in front of it, its line, and its column.  Lines
and columns are counted from one. -/
structure Spot where
  offset : Nat
  line : Nat
  column : Nat
deriving DecidableEq

namespace Spot

/-- The start of a text. -/
def start : Spot := ⟨0, 1, 1⟩

/-- The place after a character. -/
def after (s : Spot) (c : Char) : Spot :=
  if c == '\n' then ⟨s.offset + 1, s.line + 1, 1⟩ else ⟨s.offset + 1, s.line, s.column + 1⟩

end Spot

/-- A piece of a text, from a place to a later one. -/
structure Span where
  first : Spot
  past : Spot
deriving DecidableEq

namespace Span

/-- Whether a piece is within one line. -/
def isWithinLine (s : Span) : Bool := s.first.line == s.past.line

/-- Whether a piece comes before another: it starts earlier, or ends earlier if both start
together. -/
def before (a b : Span) : Bool :=
  a.first.offset < b.first.offset
    || (a.first.offset == b.first.offset && a.past.offset ≤ b.past.offset)

end Span

/-- The reasons for which a text is no pattern. -/
inductive Cause where
  | classEscapeInvalid
  | classRangeInvalid
  | classRangeNotLiteral
  | classUnclosed
  | decimalInvalid
  | escapeHexEmpty
  | escapeHexInvalid
  | escapeHexInvalidDigit
  | escapeUnfinished
  | escapeUnknown
  | flagDanglingNegation
  | flagDuplicate
  | flagMissing
  | flagRepeatedNegation
  | flagUnknown
  | groupNameDuplicate
  | groupNameEmpty
  | groupNameInvalid
  | groupNameUnclosed
  | groupUnclosed
  | groupUnopened
  | repetitionCountInvalid
  | repetitionCountMissing
  | repetitionCountUnclosed
  | repetitionMissing
  | wordEdgeUnclosed
  | wordEdgeUnfinished
  | wordEdgeUnknown
  | propertyInvalid
  | backreference
  | lookAround
  | notText
  | propertyUnknown
  | propertyNotAllowed
deriving DecidableEq

/-- The wording of a cause. -/
def Cause.text : Cause → String
  | .classEscapeInvalid => "invalid escape sequence found in character class"
  | .classRangeInvalid => "invalid character class range, the start must be <= the end"
  | .classRangeNotLiteral => "invalid range boundary, must be a literal"
  | .classUnclosed => "unclosed character class"
  | .decimalInvalid => "decimal literal invalid"
  | .escapeHexEmpty => "hexadecimal literal empty"
  | .escapeHexInvalid => "hexadecimal literal is not a Unicode scalar value"
  | .escapeHexInvalidDigit => "invalid hexadecimal digit"
  | .escapeUnfinished => "incomplete escape sequence, reached end of pattern prematurely"
  | .escapeUnknown => "unrecognized escape sequence"
  | .flagDanglingNegation => "dangling flag negation operator"
  | .flagDuplicate => "duplicate flag"
  | .flagMissing => "expected flag but got end of regex"
  | .flagRepeatedNegation => "flag negation operator repeated"
  | .flagUnknown => "unrecognized flag"
  | .groupNameDuplicate => "duplicate capture group name"
  | .groupNameEmpty => "empty capture group name"
  | .groupNameInvalid => "invalid capture group character"
  | .groupNameUnclosed => "unclosed capture group name"
  | .groupUnclosed => "unclosed group"
  | .groupUnopened => "unopened group"
  | .repetitionCountInvalid =>
    "invalid repetition count range, the start must be <= the end"
  | .repetitionCountMissing => "repetition quantifier expects a valid decimal"
  | .repetitionCountUnclosed => "unclosed counted repetition"
  | .repetitionMissing => "repetition operator missing expression"
  | .wordEdgeUnclosed =>
    "special word boundary assertion is either unclosed or contains an invalid character"
  | .wordEdgeUnfinished =>
    "found either the beginning of a special word boundary or a bounded repetition on a \\b"
      ++ " with an opening brace, but no closing brace"
  | .wordEdgeUnknown =>
    "unrecognized special word boundary assertion, valid choices are: start, end, start-half"
      ++ " or end-half"
  | .propertyInvalid => "invalid Unicode character class"
  | .backreference => "backreferences are not supported"
  | .lookAround => "look-around, including look-ahead and look-behind, is not supported"
  | .notText => "pattern can match invalid UTF-8"
  | .propertyUnknown => "Unicode property not found"
  | .propertyNotAllowed => "Unicode not allowed here"

/-- A cause, the piece of the text that it is about, and an earlier one that it concerns. -/
structure Fault where
  cause : Cause
  span : Span
  earlier : Option Span
deriving DecidableEq

namespace Fault

/-- The pieces that a fault is about, the first in the text first. -/
def spans (f : Fault) : List Span :=
  match f.earlier with
  | none => [f.span]
  | some other => if f.span.before other then [f.span, other] else [other, f.span]

/-- The lines of a text.  One that is empty at the end does not count. -/
def linesOf (text : List Char) : List (List Char) :=
  let lines := Text.splitAt '\n' text
  let ended := lines.dropLast.map fun line =>
    if line.getLast? == some '\r' then line.dropLast else line
  match lines.getLast? with
  | none | some [] => ended
  | some last => ended ++ [last]

/-- Blanks up to a width, and marks under a piece of the line. -/
def underline (line : String) (span : Span) : String :=
  let blanks := List.replicate (span.first.column - 1 - line.length) ' '
  let marks := List.replicate (max 1 (span.past.column - span.first.column)) '^'
  line ++ String.ofList (blanks ++ marks)

/-- A text of one or more lines with the pieces of a fault underlined, each line behind its
margin. -/
def shownLines (spans : List Span) (margin : Nat → String) (text : List Char) : List String :=
  (linesOf text).zipIdx.flatMap fun (line, n) =>
    let here := spans.filter fun span => span.isWithinLine && span.first.line == n + 1
    let margin := margin (n + 1)
    let shown := margin ++ String.ofList line
    let blanks := String.ofList (List.replicate margin.length ' ')
    if here.isEmpty then [shown] else [shown, blanks ++ here.foldl underline ""]

/-- The number of a line, padded to a width, as a margin. -/
def numberMargin (width n : Nat) : String :=
  let digits := toString n
  String.ofList (List.replicate (width - digits.length) ' ') ++ digits ++ ": "

/-- The description of a piece that is not within one line. -/
def lineRange (span : Span) : String :=
  "on line " ++ toString span.first.line ++ " (column " ++ toString span.first.column
    ++ ") through line " ++ toString span.past.line ++ " (column "
    ++ toString (span.past.column - 1) ++ ")"

/-- The message of a fault in a text. -/
def message (f : Fault) (text : String) : String :=
  let cs := text.toList
  let shown :=
    if cs.contains '\n' then
      let count := (Text.splitAt '\n' cs).length
      let divider := String.ofList (List.replicate 79 '~')
      let lines := shownLines f.spans (numberMargin (toString count).length) cs
      let ranges := (f.spans.filter (!·.isWithinLine)).map lineRange
      divider :: lines ++ divider :: ranges
    else shownLines f.spans (fun _ => "    ") cs
  "\n".intercalate ("regex parse error:" :: shown ++ ["error: " ++ f.cause.text])

end Fault

end ConfigTemplate.Pattern
