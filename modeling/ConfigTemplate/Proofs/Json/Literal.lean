import ConfigTemplate.Proofs.Json.Outline

/-!
# JSON texts

The outline of a JSON text has literals as its leaves: the three words, numerals and strings.
-/

namespace ConfigTemplate.Json

/-- A leaf of a JSON text as it is written. -/
inductive Literal where
  | null
  | boolean (b : Bool)
  | number (n : NumeralText)
  | string (pieces : List Piece)

/-- The text that pieces spell. -/
def pieceText (pieces : List Piece) : String := String.ofList (pieces.map Piece.char)

namespace Literal

/-- The lexeme of a literal. -/
def lexeme : Literal → Lexeme
  | .null => .word "null".toList
  | .boolean true => .word "true".toList
  | .boolean false => .word "false".toList
  | .number n => .number n.chars
  | .string pieces => .quoted (contentChars pieces)

/-- The value of a literal. -/
def value : Literal → Value
  | .null => .null
  | .boolean b => .boolean b
  | .number n => .number n.number
  | .string pieces => .string (pieceText pieces)

theorem proper_lexeme (l : Literal) :
  l.lexeme.Proper
  := by
  cases l with
  | null => exact .word rfl (List.all_eq_true.1 rfl)
  | boolean b =>
    cases b with
    | false => exact .word rfl (List.all_eq_true.1 rfl)
    | true => exact .word rfl (List.all_eq_true.1 rfl)
  | number n => apply Numeral.proper_spelled n.valid n.isLetter
  | string pieces => apply Lexeme.Proper.quoted (isContent_pieces pieces)

/-- A text is written as a literal string. -/
theorem exists_string (text : String) :
  ∃ pieces : List Piece, stringChars text.toList = (string pieces).lexeme.chars
    ∧ pieceText pieces = text
  := by
  obtain ⟨pieces, spelled, same⟩ := exists_pieces_of_escapedChars text.toList
  refine ⟨pieces, ?_, ?_⟩
  · simp [stringChars, lexeme, Lexeme.chars, contentChars, spelled]
  · rw [pieceText, same, String.ofList_toList]

end Literal

namespace Outline

/-- The value of an outline with literals. -/
abbrev literalValue (t : Outline Literal) : Value := t.value Literal.value pieceText

end Outline

end ConfigTemplate.Json
