import ConfigTemplate.Placeholder.Lexeme

/-!
# Occurrences of placeholders

A word that is a placeholder name is a bare placeholder, and a string whose whole content is a
placeholder name is a quoted one.  Every other word, apart from the three of JSON, is a stray
identifier.
-/

namespace ConfigTemplate

/-- The two forms of a placeholder. -/
inductive Form where
  /-- A word, standing for a JSON literal. -/
  | bare
  /-- The whole content of a string. -/
  | quoted
deriving DecidableEq

/-- The name of a form. -/
def Form.text : Form → String
  | .bare => "bare"
  | .quoted => "quoted"

/-- A place in a template: the bytes before it, its line and its column.  Lines and columns are
counted from one, columns in characters. -/
structure Mark where
  offset : Nat
  line : Nat
  column : Nat
deriving DecidableEq

namespace Mark

/-- The start of a template. -/
def start : Mark := ⟨0, 1, 1⟩

/-- The place after a character. -/
def after (m : Mark) (c : Char) : Mark :=
  if c == '\n' then ⟨m.offset + c.utf8Size, m.line + 1, 1⟩
  else ⟨m.offset + c.utf8Size, m.line, m.column + 1⟩

/-- The place after a list of characters. -/
def afterAll (m : Mark) (cs : List Char) : Mark := cs.foldl after m

end Mark

/-- A word or a quoted placeholder at its place in a template.  The span from `start` to `stop` is
in bytes, and for the quoted form includes the quotes; `line` and `column` are those of its
start. -/
structure Occurrence where
  name : String
  form : Form
  start : Nat
  stop : Nat
  line : Nat
  column : Nat
deriving DecidableEq

/-- The words of JSON itself. -/
def isKeyword (cs : List Char) : Bool :=
  cs == "true".toList || cs == "false".toList || cs == "null".toList

/-- The form and name of the identifier that a lexeme is: a word that is no keyword, or a quoted
placeholder. -/
def Lexeme.identifier? : Lexeme → Option (Form × List Char)
  | .quoted content => if isPlaceholderName content then some (.quoted, content) else none
  | .word chars => if isKeyword chars then none else some (.bare, chars)
  | _ => none

/-- The identifiers among lexemes, of which the first starts at a place. -/
def identifiers (m : Mark) : List Lexeme → List Occurrence
  | [] => []
  | lexeme :: rest =>
    let next := m.afterAll lexeme.chars
    match lexeme.identifier? with
    | some (form, name) =>
      ⟨String.ofList name, form, m.offset, next.offset, m.line, m.column⟩ :: identifiers next rest
    | none => identifiers next rest

namespace Occurrence

/-- Whether an identifier is a placeholder. -/
def isPlaceholder (o : Occurrence) : Bool :=
  o.form == .quoted || isPlaceholderName o.name.toList

end Occurrence

/-- All identifiers of a template in their order. -/
def identifiersOf (source : List Char) : List Occurrence :=
  identifiers .start (lexemes source)

/-- The placeholders of a template in their order. -/
def placeholdersOf (source : List Char) : List Occurrence :=
  (identifiersOf source).filter Occurrence.isPlaceholder

/-- The stray identifiers of a template in their order. -/
def straysOf (source : List Char) : List Occurrence :=
  (identifiersOf source).filter (!·.isPlaceholder)

/-- The names of occurrences, each once, in the order in which they first appear. -/
def distinctNames (occurrences : List Occurrence) : List String :=
  (occurrences.map (·.name)).eraseDups

end ConfigTemplate
