import ConfigTemplate.Placeholder.Occurrence
import Mathlib.Tactic.Common

/-!
# Tidy rows of lexemes

Lexemes written one after the other need not be the lexemes of the text that they make: two
numbers side by side become one.  A row of lexemes is tidy if each of them is made of the right
characters, and numbers and words never stand side by side.  The text of a tidy row has exactly
the lexemes of the row.
-/

namespace ConfigTemplate

namespace Lexeme

/-- The content of a closed string: every backslash has a character after it that it takes with
it, and no quote is left over. -/
def isContent : List Char → Bool
  | [] => true
  | ['\\'] => false
  | '\\' :: _ :: rest => isContent rest
  | c :: rest => c != '"' && isContent rest

/-- A lexeme that would take in a neighbour of its kind. -/
def isRun : Lexeme → Bool
  | .number _ | .word _ => true
  | _ => false

/-- A character that stands for itself whatever is next to it. -/
def isSeparator (c : Char) : Bool :=
  c != '"' && !continuesNumber c && !continuesWord c

/-- The lexeme is made of the characters of its kind. -/
inductive Proper : Lexeme → Prop where
  | quoted {content : List Char} (closed : isContent content = true) : Proper (.quoted content)
  | number {c : Char} {rest : List Char} (starts : startsNumber c = true)
    (continues : ∀ d ∈ rest, continuesNumber d = true) : Proper (.number (c :: rest))
  | word {c : Char} {rest : List Char} (starts : startsWord c = true)
    (continues : ∀ d ∈ rest, continuesWord d = true) : Proper (.word (c :: rest))
  | other {c : Char} (separates : isSeparator c = true) : Proper (.other c)

/-- The first lexeme, if there is one, is no run. -/
def Clear (row : List Lexeme) : Prop :=
  ∀ lexeme ∈ row.head?, lexeme.isRun = false

/-- Every lexeme is proper, and no run stands directly before another one. -/
def Tidy : List Lexeme → Prop
  | [] => True
  | lexeme :: rest => lexeme.Proper ∧ (lexeme.isRun = true → Clear rest) ∧ Tidy rest

/-! ### Characters -/

theorem continuesNumber_of_startsNumber {c : Char} (h : startsNumber c = true) :
  continuesNumber c = true
  := by
  simp only [startsNumber, continuesNumber, Bool.or_eq_true] at h ⊢
  tauto

theorem continuesWord_of_startsWord {c : Char} (h : startsWord c = true) :
  continuesWord c = true
  := by
  simp only [startsWord, continuesWord, Char.isAlphanum, Bool.or_eq_true] at h ⊢
  tauto

/-- No word starts like a number. -/
theorem startsNumber_eq_false_of_startsWord {c : Char} (h : startsWord c = true) :
  startsNumber c = false
  := by
  unfold startsWord Char.isAlpha Char.isUpper Char.isLower at h
  unfold startsNumber Char.isDigit
  simp only [Bool.or_eq_true, Bool.and_eq_true, decide_eq_true_eq, beq_iff_eq,
    Bool.or_eq_false_iff, beq_eq_false_iff_ne, Bool.and_eq_false_iff, decide_eq_false_iff_not,
    ge_iff_le] at h ⊢
  rcases h with (h | h) | rfl
  · constructor
    · rintro rfl
      revert h
      decide
    · right
      intro h'
      exact absurd (UInt32.le_trans h.1 h') (by decide)
  · constructor
    · rintro rfl
      revert h
      decide
    · right
      intro h'
      exact absurd (UInt32.le_trans h.1 h') (by decide)
  · decide

/-- A quote starts neither a number nor a word. -/
theorem ne_quote_of_continues {c : Char}
    (h : continuesNumber c = true ∨ continuesWord c = true) :
  c ≠ '"'
  := by
  rintro rfl
  revert h
  decide

/-! ### Reading a row back -/

theorem isContent_cons {c : Char} (h : c ≠ '"' ∧ c ≠ '\\') (rest : List Char) :
  isContent (c :: rest) = isContent rest
  := by
  simp [isContent, h]

/-- A character that no case of escapes applies to is no backslash. -/
theorem ne_backslash {c : Char} {rest : List Char} (notLast : c = '\\' → rest = [] → False)
    (notEscape : ∀ d tail, c = '\\' → rest = d :: tail → False) :
  c ≠ '\\'
  := by
  rintro rfl
  cases rest with
  | nil => exact notLast rfl rfl
  | cons d tail => exact notEscape d tail rfl rfl

/-- What closes a string leaves the content alone and takes nothing behind it. -/
theorem closeString_append {content : List Char} (h : isContent content = true)
    (rest : List Char) :
  closeString (content ++ '"' :: rest) = some (content, rest)
  := by
  fun_induction isContent content with
  | case1 => simp [closeString]
  | case2 => simp at h
  | case3 c tail ih => simp [closeString, ih h]
  | case4 c tail notLast notEscape ih =>
    simp only [Bool.and_eq_true, bne_iff_ne, ne_eq] at h
    have plain := ne_backslash notLast notEscape
    rw [List.cons_append, closeString.eq_4 _ _ (by simp [plain]) (by simp [plain])]
    simp [h.1, ih h.2]

/-- Behind a run that a clear row follows, no character would go on with the run. -/
theorem continues_eq_false_of_clear {row : List Lexeme} (tidy : Tidy row) (clear : Clear row) :
  ∀ c ∈ (row.flatMap chars).head?, continuesNumber c = false ∧ continuesWord c = false
  := by
  intro c first
  cases row with
  | nil => simp at first
  | cons lexeme rest =>
    have noRun := clear lexeme (by simp)
    cases tidy.1 with
    | quoted closed =>
      obtain rfl : '"' = c := by simpa [chars] using first
      decide
    | number starts continues => simp [isRun] at noRun
    | word starts continues => simp [isRun] at noRun
    | @other d separates =>
      obtain rfl : d = c := by simpa [chars] using first
      simp only [isSeparator, Bool.and_eq_true, Bool.not_eq_true'] at separates
      constructor
      · apply separates.1.2
      · apply separates.2

end Lexeme

/-- A list that goes on with nothing of a kind is cut right there. -/
theorem span_append {p : Char → Bool} {front back : List Char} (all : ∀ c ∈ front, p c = true)
    (stop : ∀ c ∈ back.head?, p c = false) :
  (front ++ back).takeWhile p = front ∧ (front ++ back).dropWhile p = back
  := by
  rw [List.takeWhile_append_of_pos all, List.dropWhile_append_of_pos all]
  cases back with
  | nil => simp
  | cons c back => simp [stop c (by simp)]

/-! ### The first lexeme of a text -/

section

open Lexeme

variable {c : Char} {rest : List Char}

theorem lexemes_quoted {content : List Char} (closed : isContent content = true) :
  lexemes ('"' :: (content ++ '"' :: rest)) = .quoted content :: lexemes rest
  := by
  have split := closeString_append closed rest
  rw [lexemes]
  simp only [beq_self_eq_true, if_true]
  split
  · simp_all
  · next found =>
    rw [split] at found
    obtain ⟨rfl, rfl⟩ := found
    rfl

theorem lexemes_number {digits : List Char} (starts : startsNumber c = true)
    (continues : ∀ d ∈ digits, continuesNumber d = true)
    (stop : ∀ d ∈ rest.head?, continuesNumber d = false) :
  lexemes (c :: (digits ++ rest)) = .number (c :: digits) :: lexemes rest
  := by
  have cut := span_append continues stop
  have noQuote := ne_quote_of_continues (.inl (continuesNumber_of_startsNumber starts))
  rw [lexemes]
  simp only [beq_iff_eq, noQuote, starts, if_false, if_true, cut.1, cut.2]

theorem lexemes_word {letters : List Char} (starts : startsWord c = true)
    (continues : ∀ d ∈ letters, continuesWord d = true)
    (stop : ∀ d ∈ rest.head?, continuesWord d = false) :
  lexemes (c :: (letters ++ rest)) = .word (c :: letters) :: lexemes rest
  := by
  have cut := span_append continues stop
  have noQuote := ne_quote_of_continues (.inr (continuesWord_of_startsWord starts))
  have noNumber := startsNumber_eq_false_of_startsWord starts
  rw [lexemes]
  simp only [beq_iff_eq, noQuote, noNumber, starts, if_false, if_true, cut.1, cut.2,
    Bool.false_eq_true]

theorem lexemes_other (separates : isSeparator c = true) :
  lexemes (c :: rest) = .other c :: lexemes rest
  := by
  simp only [isSeparator, Bool.and_eq_true, Bool.not_eq_true', bne_iff_ne] at separates
  have noNumber : startsNumber c = false := by
    by_contra h
    have := continuesNumber_of_startsNumber (by simpa using h)
    simp_all
  have noWord : startsWord c = false := by
    by_contra h
    have := continuesWord_of_startsWord (by simpa using h)
    simp_all
  rw [lexemes]
  simp only [beq_iff_eq, separates.1.1, noNumber, noWord, if_false, Bool.false_eq_true]

end

/-- The text of a tidy row has the lexemes of the row. -/
theorem lexemes_flatMap_chars {row : List Lexeme} (tidy : Lexeme.Tidy row) :
  lexemes (row.flatMap Lexeme.chars) = row
  := by
  induction row with
  | nil => rw [List.flatMap_nil, lexemes]
  | cons lexeme rest ih =>
    obtain ⟨proper, clear, tidyRest⟩ := tidy
    rw [List.flatMap_cons]
    cases proper with
    | quoted closed =>
      simp only [Lexeme.chars, List.cons_append, List.append_assoc, List.nil_append]
      rw [lexemes_quoted closed, ih tidyRest]
    | number starts continues =>
      have stop := Lexeme.continues_eq_false_of_clear tidyRest (clear rfl)
      rw [Lexeme.chars, List.cons_append,
        lexemes_number starts continues fun d first => (stop d first).1, ih tidyRest]
    | word starts continues =>
      have stop := Lexeme.continues_eq_false_of_clear tidyRest (clear rfl)
      rw [Lexeme.chars, List.cons_append,
        lexemes_word starts continues fun d first => (stop d first).2, ih tidyRest]
    | other separates =>
      rw [Lexeme.chars, List.singleton_append, lexemes_other separates, ih tidyRest]

end ConfigTemplate
