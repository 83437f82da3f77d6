import ConfigTemplate.Placeholder.Name

/-!
# Lexemes

A template is cut into lexemes: closed strings, runs of number characters, words, and single
characters of any other kind.  A string that is not closed takes the rest of the template with it.
The lexemes written one after the other are the template again.
-/

namespace ConfigTemplate

/-- A piece of a template. -/
inductive Lexeme where
  /-- A string, given by what stands between its quotes. -/
  | quoted (content : List Char)
  /-- A quote that opens a string without an end, given by all that follows it. -/
  | unclosed (rest : List Char)
  /-- A run of characters of numbers. -/
  | number (chars : List Char)
  /-- A run of letters, digits and underscores that starts with no digit. -/
  | word (chars : List Char)
  /-- Any other character. -/
  | other (c : Char)
deriving DecidableEq

namespace Lexeme

/-- The characters of a lexeme as they stand in the template. -/
def chars : Lexeme → List Char
  | .quoted content => '"' :: content ++ ['"']
  | .unclosed rest => '"' :: rest
  | .number chars => chars
  | .word chars => chars
  | .other c => [c]

/-- Splits what follows an opening quote at the quote that closes the string.  A backslash takes
the next character with it. -/
def closeString : List Char → Option (List Char × List Char)
  | [] => none
  | ['\\'] => none
  | '\\' :: c :: rest => (closeString rest).map fun (content, left) => ('\\' :: c :: content, left)
  | c :: rest =>
    if c == '"' then some ([], rest)
    else (closeString rest).map fun (content, left) => (c :: content, left)

/-- A character that starts a run of number characters. -/
def startsNumber (c : Char) : Bool := c == '-' || c.isDigit

/-- A character that continues such a run. -/
def continuesNumber (c : Char) : Bool :=
  c.isDigit || c == '.' || c == 'e' || c == 'E' || c == '+' || c == '-'

/-- A character that starts a word. -/
def startsWord (c : Char) : Bool := c.isAlpha || c == '_'

/-- A character that continues a word. -/
def continuesWord (c : Char) : Bool := c.isAlphanum || c == '_'

/-- A closed string with its rest is the text it was split from. -/
theorem eq_append_of_closeString {cs content left : List Char}
  (h : closeString cs = some (content, left)) :
  cs = content ++ '"' :: left
  := by
  fun_induction closeString cs generalizing content with
  | case1 => simp at h
  | case2 => simp at h
  | case3 c rest ih =>
    obtain ⟨⟨inner, _⟩, closed, same⟩ := Option.map_eq_some_iff.1 h
    simp only [Prod.mk.injEq] at same
    obtain ⟨rfl, rfl⟩ := same
    simp [ih closed]
  | case4 c rest _ _ quote =>
    simp_all
  | case5 c rest _ _ _ ih =>
    obtain ⟨⟨inner, _⟩, closed, same⟩ := Option.map_eq_some_iff.1 h
    simp only [Prod.mk.injEq] at same
    obtain ⟨rfl, rfl⟩ := same
    simp [ih closed]

/-- What follows a closed string is shorter than what followed its opening quote. -/
theorem length_lt_of_closeString {cs content left : List Char}
  (h : closeString cs = some (content, left)) :
  left.length < cs.length
  := by
  rw [eq_append_of_closeString h]
  simp
  omega

end Lexeme

/-- The lexemes of a template. -/
def lexemes (source : List Char) : List Lexeme :=
  match source with
  | [] => []
  | c :: rest =>
    if c == '"' then
      match closed : Lexeme.closeString rest with
      | none => [.unclosed rest]
      | some (content, left) =>
        have : left.length < rest.length := Lexeme.length_lt_of_closeString closed
        .quoted content :: lexemes left
    else if Lexeme.startsNumber c then
      have := (List.dropWhile_sublist Lexeme.continuesNumber (l := rest)).length_le
      .number (c :: rest.takeWhile Lexeme.continuesNumber)
        :: lexemes (rest.dropWhile Lexeme.continuesNumber)
    else if Lexeme.startsWord c then
      have := (List.dropWhile_sublist Lexeme.continuesWord (l := rest)).length_le
      .word (c :: rest.takeWhile Lexeme.continuesWord)
        :: lexemes (rest.dropWhile Lexeme.continuesWord)
    else
      .other c :: lexemes rest
termination_by source.length
decreasing_by all_goals (simp only [List.length_cons]; omega)

/-- Nothing of a template is lost by cutting it up. -/
theorem flatMap_chars_lexemes (source : List Char) :
  (lexemes source).flatMap Lexeme.chars = source
  := by
  fun_induction lexemes source with
  | case1 => rfl
  | case2 c rest quote _ =>
    simp_all [Lexeme.chars]
  | case3 c rest quote content left closed _ ih =>
    rw [beq_iff_eq] at quote
    simp [Lexeme.chars, ih, quote, Lexeme.eq_append_of_closeString closed]
  | case4 c rest _ _ _ ih => simp [Lexeme.chars, ih]
  | case5 c rest _ _ _ _ ih => simp [Lexeme.chars, ih]
  | case6 c rest _ _ _ ih => simp [Lexeme.chars, ih]

end ConfigTemplate
