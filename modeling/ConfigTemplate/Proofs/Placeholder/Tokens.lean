import ConfigTemplate.Proofs.Json.NumeralText
import ConfigTemplate.Proofs.Placeholder.Substitution
import ConfigTemplate.Text.Basic
import Mathlib.Data.List.Induction

/-!
# Rows of tokens

A template is thought of as a row of JSON tokens with identifiers among them.  As long as no two
numbers, words of JSON or identifiers stand side by side, the text of the row determines the
identifiers in it: `placeholdersOf_text` says that scanning the text finds every one of them at its
place, and nothing else.
-/

namespace ConfigTemplate

/-! ### Places -/

/-- The occurrence of a name that a token is, given the text in front of the token: its span in
bytes, its line, and its column in characters. -/
def Occurrence.behind (front : List Char) (form : Form) (name token : List Char) : Occurrence where
  name := String.ofList name
  form := form
  start := byteLength front
  stop := byteLength front + byteLength token
  line := front.count '\n' + 1
  column := (front.reverse.takeWhile (· != '\n')).length + 1

/-- The place behind a text. -/
theorem Mark.afterAll_start (front : List Char) :
  Mark.start.afterAll front
    = ⟨byteLength front, front.count '\n' + 1,
        (front.reverse.takeWhile (· != '\n')).length + 1⟩
  := by
  induction front using List.reverseRecOn with
  | nil => rfl
  | append_singleton front c ih =>
    rw [afterAll] at ih
    rw [afterAll, List.foldl_append, ih, List.foldl_cons, List.foldl_nil, byteLength_append,
      List.count_append, List.reverse_append]
    by_cases newline : c = '\n'
    · subst newline
      rfl
    · simp [after, newline, byteLength]

/-- Behind a text the rest of it leads to the place behind all of it. -/
theorem Mark.afterAll_append (m : Mark) (front back : List Char) :
  m.afterAll (front ++ back) = (m.afterAll front).afterAll back
  := List.foldl_append

/-! ### Identifiers of rows of lexemes -/

/-- The identifiers of a row of lexemes are those of its front, and those of its back at the place
behind the front. -/
theorem identifiers_append (m : Mark) (front back : List Lexeme) :
  identifiers m (front ++ back)
    = identifiers m front ++ identifiers (m.afterAll (front.flatMap Lexeme.chars)) back
  := by
  induction front generalizing m with
  | nil => rfl
  | cons lexeme front ih =>
    rw [List.cons_append, List.flatMap_cons, Mark.afterAll_append, identifiers, identifiers, ih]
    cases lexeme.identifier? with
    | none => rfl
    | some shape => rfl

theorem identifiers_others (m : Mark) (cs : List Char) :
  identifiers m (cs.map Lexeme.other) = []
  := by
  induction cs generalizing m with
  | nil => rfl
  | cons c rest ih => apply ih

/-- The identifier that a single lexeme is, if it is one. -/
theorem identifiers_singleton (front : List Char) (lexeme : Lexeme) :
  identifiers (Mark.start.afterAll front) [lexeme]
    = (lexeme.identifier?.map fun (form, name) =>
        Occurrence.behind front form name lexeme.chars).toList
  := by
  cases found : lexeme.identifier? with
  | none => simp [identifiers, found]
  | some shape =>
    have stop := (Mark.start.afterAll front).offset_afterAll lexeme.chars
    rw [Mark.afterAll_start] at stop ⊢
    simp only [identifiers, found, stop, Occurrence.behind, Option.map_some, Option.toList_some]

theorem isPlaceholder_behind (front : List Char) (form : Form) (name token : List Char) :
  (Occurrence.behind front form name token).isPlaceholder
    = (form == .quoted || isPlaceholderName name)
  := by
  rw [Occurrence.isPlaceholder, Occurrence.behind, String.toList_ofList]

/-! ### Characters between tokens -/

namespace Lexeme

theorem bounds_of_continuesWord {c : Char} (h : continuesWord c = true) :
  '0' ≤ c ∧ c ≤ 'z'
  := by
  unfold continuesWord Char.isAlphanum Char.isAlpha Char.isUpper Char.isLower Char.isDigit at h
  simp only [Bool.or_eq_true, Bool.and_eq_true, decide_eq_true_eq, beq_iff_eq, ge_iff_le] at h
  rcases h with ((⟨low, high⟩ | ⟨low, high⟩) | ⟨low, high⟩) | rfl
  · exact ⟨Char.le_trans (by decide) low, Char.le_trans high (by decide)⟩
  · exact ⟨Char.le_trans (by decide) low, Char.le_trans high (by decide)⟩
  · exact ⟨Char.le_trans (by decide) low, Char.le_trans high (by decide)⟩
  · decide

theorem bounds_of_continuesNumber {c : Char} (h : continuesNumber c = true) :
  '+' ≤ c ∧ c ≤ 'z'
  := by
  simp only [continuesNumber, Bool.or_eq_true, beq_iff_eq] at h
  rcases h with ((((h | rfl) | rfl) | rfl) | rfl) | rfl
  · simp only [Char.isDigit, Bool.and_eq_true, decide_eq_true_eq, ge_iff_le] at h
    exact ⟨Char.le_trans (by decide) h.1, Char.le_trans h.2 (by decide)⟩
  all_goals decide

/-- What is no separator is a printable character of ASCII. -/
theorem isSeparator_of_outside {c : Char} (h : c ≤ ' ' ∨ '\u0080' ≤ c) :
  isSeparator c = true
  := by
  have outside : ¬('!' ≤ c ∧ c ≤ 'z') := by
    rintro ⟨low, high⟩
    rcases h with h | h
    · exact absurd (Char.le_trans low h) (by decide)
    · exact absurd (Char.le_trans h high) (by decide)
  simp only [isSeparator, Bool.and_eq_true, bne_iff_ne, Bool.not_eq_true']
  refine ⟨⟨?_, ?_⟩, ?_⟩
  · rintro rfl
    exact outside (by decide)
  · by_contra number
    have bounds := bounds_of_continuesNumber (by simpa using number)
    exact outside ⟨Char.le_trans (by decide) bounds.1, bounds.2⟩
  · by_contra word
    have bounds := bounds_of_continuesWord (by simpa using word)
    exact outside ⟨Char.le_trans (by decide) bounds.1, bounds.2⟩

theorem isSeparator_of_isBlank {c : Char} (h : Text.isBlank c = true) :
  isSeparator c = true
  := by
  apply isSeparator_of_outside
  simp only [Text.isBlank, Bool.or_eq_true, Bool.and_eq_true, decide_eq_true_eq, beq_iff_eq] at h
  rcases h with (((((((((h | rfl) | rfl) | rfl) | rfl) | h) | rfl) | rfl) | rfl) | rfl) | rfl
  · left
    exact Char.le_trans h.2 (by decide)
  · decide
  · decide
  · decide
  · decide
  · right
    exact Char.le_trans (by decide) h.1
  all_goals decide

/-- Separators in front of a tidy row leave it tidy. -/
theorem tidy_others_append {cs : List Char} (separate : ∀ c ∈ cs, isSeparator c = true)
    {row : List Lexeme} (tidy : Tidy row) :
  Tidy (cs.map .other ++ row)
  := by
  induction cs with
  | nil => exact tidy
  | cons c rest ih =>
    rw [List.forall_mem_cons] at separate
    exact ⟨.other separate.1, nofun, ih separate.2⟩

end Lexeme

theorem proper_word_of_isKeyword {cs : List Char} (h : isKeyword cs = true) :
  (Lexeme.word cs).Proper
  := by
  simp only [isKeyword, Bool.or_eq_true, beq_iff_eq] at h
  rcases h with (rfl | rfl) | rfl
  · exact .word rfl (List.all_eq_true.1 (by decide))
  · exact .word rfl (List.all_eq_true.1 (by decide))
  · exact .word rfl (List.all_eq_true.1 (by decide))

/-! ### Tokens -/

/-- The characters that JSON documents are put together with. -/
def punctuationMarks : List Char := ['\x7b', '\x7d', '[', ']', ':', ',']

/-- A token of a template. -/
inductive Token where
  /-- A brace, a bracket, a colon or a comma. -/
  | punctuation (c : Char) (isMark : c ∈ punctuationMarks)
  /-- White space, at least one character of it. -/
  | space (c : Char) (rest : List Char) (blank : ∀ d ∈ c :: rest, Text.isBlank d = true)
  /-- A JSON number, with the letter that announces its exponent. -/
  | number (n : Json.Numeral) (letter : Char) (valid : n.Valid)
    (isLetter : letter = 'e' ∨ letter = 'E')
  /-- One of the three words of JSON. -/
  | keyword (chars : List Char) (isWord : isKeyword chars = true)
  /-- Letters, digits and underscores of which the first is no digit. -/
  | identifier (c : Char) (rest : List Char) (starts : Lexeme.startsWord c = true)
    (continues : ∀ d ∈ rest, Lexeme.continuesWord d = true)
  /-- A string, given by what stands between its quotes. -/
  | string (content : List Char) (closed : Lexeme.isContent content = true)

namespace Token

/-- The characters of a token. -/
def chars : Token → List Char
  | .punctuation c _ => [c]
  | .space c rest _ => c :: rest
  | .number n letter _ _ => n.spelled letter
  | .keyword chars _ => chars
  | .identifier c rest _ _ => c :: rest
  | .string content _ => '"' :: content ++ ['"']

/-- A number, a word of JSON or an identifier, which would take in a neighbour of these kinds. -/
def isRun : Token → Bool
  | .number .. | .keyword .. | .identifier .. => true
  | _ => false

/-- The form and name of the placeholder that a token is, if it is one. -/
def placeholder? : Token → Option (Form × List Char)
  | .identifier c rest _ _ =>
    if isPlaceholderName (c :: rest) then some (.bare, c :: rest) else none
  | .string content _ => if isPlaceholderName content then some (.quoted, content) else none
  | _ => none

/-- The form and name of the stray identifier that a token is, if it is one: it is no placeholder,
and no word of JSON. -/
def stray? : Token → Option (Form × List Char)
  | .identifier c rest _ _ =>
    if isKeyword (c :: rest) || isPlaceholderName (c :: rest) then none
    else some (.bare, c :: rest)
  | _ => none

/-- The text of a row of tokens. -/
def text (row : List Token) : List Char := row.flatMap chars

/-- No two runs stand side by side. -/
def Separated (row : List Token) : Prop :=
  row.IsChain fun a b => a.isRun = true → b.isRun = false

/-- What is to be found among the tokens of a row, each at its place behind the text in front of
it. -/
def found (what? : Token → Option (Form × List Char)) (front : List Char) :
    List Token → List Occurrence
  | [] => []
  | token :: row =>
    ((what? token).map fun (form, name) => Occurrence.behind front form name token.chars).toList
      ++ found what? (front ++ token.chars) row

/-! ### The lexemes of a row -/

/-- The lexemes of a token. -/
def pieces : Token → List Lexeme
  | .punctuation c _ => [.other c]
  | .space c rest _ => (c :: rest).map .other
  | .number n letter _ _ => [.number (n.spelled letter)]
  | .keyword chars _ => [.word chars]
  | .identifier c rest _ _ => [.word (c :: rest)]
  | .string content _ => [.quoted content]

theorem flatMap_chars_pieces (token : Token) :
  token.pieces.flatMap Lexeme.chars = token.chars
  := by
  cases token with
  | space c rest blank => simp [pieces, chars, List.flatMap_map, Lexeme.chars]
  | punctuation | number | keyword | identifier | string => simp [pieces, chars, Lexeme.chars]

theorem text_eq (row : List Token) :
  text row = (row.flatMap pieces).flatMap Lexeme.chars
  := by
  rw [text, List.flatMap_assoc]
  apply List.flatMap_congr
  intro token _
  exact token.flatMap_chars_pieces.symm

/-- Where the first token is no run, the first lexeme is none. -/
theorem clear_pieces_append {token : Token} (noRun : token.isRun = false) (rest : List Lexeme) :
  Lexeme.Clear (token.pieces ++ rest)
  := by
  cases token with
  | number | keyword | identifier => simp [isRun] at noRun
  | punctuation | space | string => simp [Lexeme.Clear, pieces, Lexeme.isRun]

/-- The lexemes of a token in front of tidy ones are tidy, if no run follows a run. -/
theorem tidy_pieces_append (token : Token) {rest : List Lexeme} (tidy : Lexeme.Tidy rest)
    (clear : token.isRun = true → Lexeme.Clear rest) :
  Lexeme.Tidy (token.pieces ++ rest)
  := by
  cases token with
  | punctuation c isMark =>
    have separate : ∀ d ∈ punctuationMarks, Lexeme.isSeparator d = true :=
      List.all_eq_true.1 (by decide)
    exact ⟨.other (separate c isMark), nofun, tidy⟩
  | space c others blank =>
    apply Lexeme.tidy_others_append _ tidy
    intro d mem
    exact Lexeme.isSeparator_of_isBlank (blank d mem)
  | number n letter valid isLetter =>
    exact ⟨Json.Numeral.proper_spelled valid isLetter, fun _ => clear rfl, tidy⟩
  | keyword chars isWord => exact ⟨proper_word_of_isKeyword isWord, fun _ => clear rfl, tidy⟩
  | identifier c others starts continues =>
    exact ⟨.word starts continues, fun _ => clear rfl, tidy⟩
  | string content closed => exact ⟨.quoted closed, nofun, tidy⟩

theorem tidy_flatMap_pieces {row : List Token} (separated : Separated row) :
  Lexeme.Tidy (row.flatMap pieces)
  := by
  induction separated with
  | nil => trivial
  | singleton token => exact token.tidy_pieces_append trivial nofun
  | cons_cons apart later ih =>
    apply tidy_pieces_append _ ih
    intro run
    exact clear_pieces_append (apart run) _

/-- The text of separated tokens is cut at the tokens. -/
theorem lexemes_text {row : List Token} (separated : Separated row) :
  lexemes (text row) = row.flatMap pieces
  := by
  rw [text_eq, lexemes_flatMap_chars (tidy_flatMap_pieces separated)]

/-! ### What is found in a row -/

/-- Among the lexemes of a token stands the identifier that the token is, and no other one. -/
theorem filter_identifiers_pieces (front : List Char) (token : Token) :
  (identifiers (Mark.start.afterAll front) token.pieces).filter Occurrence.isPlaceholder
      = (token.placeholder?.map fun (form, name) =>
          Occurrence.behind front form name token.chars).toList
    ∧ (identifiers (Mark.start.afterAll front) token.pieces).filter (!·.isPlaceholder)
      = (token.stray?.map fun (form, name) =>
          Occurrence.behind front form name token.chars).toList
  := by
  cases token with
  | punctuation c isMark =>
    rw [pieces, identifiers_singleton]
    exact ⟨rfl, rfl⟩
  | space c rest blank =>
    rw [pieces, identifiers_others]
    exact ⟨rfl, rfl⟩
  | number n letter valid isLetter =>
    rw [pieces, identifiers_singleton]
    exact ⟨rfl, rfl⟩
  | keyword chars isWord =>
    rw [pieces, identifiers_singleton, Lexeme.identifier?, if_pos isWord]
    exact ⟨rfl, rfl⟩
  | identifier c rest starts continues =>
    rw [pieces, identifiers_singleton, Lexeme.identifier?, placeholder?, stray?]
    by_cases keyword : isKeyword (c :: rest) = true
    · simp [keyword, isPlaceholderName_of_isKeyword keyword]
    · by_cases isName : isPlaceholderName (c :: rest) = true
      · simp [keyword, isName, isPlaceholder_behind, chars, Lexeme.chars]
      · simp [keyword, isName, isPlaceholder_behind, chars, Lexeme.chars]
  | string content closed =>
    rw [pieces, identifiers_singleton, Lexeme.identifier?, placeholder?]
    by_cases isName : isPlaceholderName content = true
    · simp [isName, isPlaceholder_behind, chars, Lexeme.chars, stray?]
    · simp [isName, stray?]

theorem filter_identifiers_row (front : List Char) (row : List Token) :
  (identifiers (Mark.start.afterAll front) (row.flatMap pieces)).filter Occurrence.isPlaceholder
      = found placeholder? front row
    ∧ (identifiers (Mark.start.afterAll front) (row.flatMap pieces)).filter (!·.isPlaceholder)
      = found stray? front row
  := by
  induction row generalizing front with
  | nil => exact ⟨rfl, rfl⟩
  | cons token row ih =>
    obtain ⟨here, strayHere⟩ := filter_identifiers_pieces front token
    obtain ⟨later, strayLater⟩ := ih (front ++ token.chars)
    rw [Mark.afterAll_append] at later strayLater
    rw [List.flatMap_cons, identifiers_append, flatMap_chars_pieces, List.filter_append,
      List.filter_append, here, strayHere, later, strayLater]
    exact ⟨rfl, rfl⟩

end Token

/-- Scanning the text of separated tokens finds the placeholders among the tokens and the stray
identifiers among them, each once, in their order and at their places. -/
theorem placeholdersOf_text {row : List Token} (separated : Token.Separated row) :
  placeholdersOf (Token.text row) = Token.found Token.placeholder? [] row
    ∧ straysOf (Token.text row) = Token.found Token.stray? [] row
  := by
  rw [placeholdersOf, straysOf, identifiersOf, Token.lexemes_text separated]
  exact Token.filter_identifiers_row [] row

theorem isLetter_lower :
  'e' = 'e' ∨ 'e' = 'E'
  := .inl rfl

/-- A row with an accented letter and an escaped quote in its first string, with a placeholder of
either form, a number with an exponent, a word of JSON and a stray identifier:
`{"à\"B": GBSIZE,⏎ "CL_PATH": [-1.5e+3,true,nan]}`. -/
def mixedRow : List Token := [
  .punctuation '\x7b' (by decide),
  .string "à\\\"B".toList (by decide),
  .punctuation ':' (by decide),
  .space ' ' [] (List.all_eq_true.1 rfl),
  .identifier 'G' "BSIZE".toList rfl (List.all_eq_true.1 (by decide)),
  .punctuation ',' (by decide),
  .space '\n' [' '] (List.all_eq_true.1 rfl),
  .string "CL_PATH".toList (by decide),
  .punctuation ':' (by decide),
  .punctuation '[' (by decide),
  .number ⟨true, ['1'], some ['5'], some (some '+', ['3'])⟩ 'e'
    ⟨by decide, by decide, by decide, by decide, by simp⟩ isLetter_lower,
  .punctuation ',' (by decide),
  .keyword "true".toList (by decide),
  .punctuation ',' (by decide),
  .identifier 'n' "an".toList rfl (List.all_eq_true.1 (by decide)),
  .punctuation ']' (by decide),
  .punctuation '\x7d' (by decide)]

theorem placeholdersOf_mixedRow :
  Token.Separated mixedRow
    ∧ placeholdersOf (Token.text mixedRow)
      = [⟨"GBSIZE", .bare, 10, 16, 1, 10⟩, ⟨"CL_PATH", .quoted, 19, 28, 2, 2⟩]
    ∧ straysOf (Token.text mixedRow) = [⟨"nan", .bare, 43, 46, 2, 26⟩]
  := by
  have separated : Token.Separated mixedRow := by
    unfold Token.Separated
    decide
  obtain ⟨placeholders, strays⟩ := placeholdersOf_text separated
  exact ⟨separated, placeholders.trans (by decide), strays.trans (by decide)⟩

end ConfigTemplate
