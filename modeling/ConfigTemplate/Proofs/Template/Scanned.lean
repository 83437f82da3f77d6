import ConfigTemplate.Proofs.Placeholder.Quotation
import ConfigTemplate.Proofs.Template.Spans

/-!
# Templates that are scanned to their ends

A string that is not closed hides all that follows it from the scan.  No such template is rendered,
whatever the values are: they bring closed strings only, so the string is not closed in what is
written either.  So a template that is rendered has been scanned to its end, and every identifier
outside of its strings is a word of JSON or a placeholder with a value: `render_scanned`.
-/

namespace ConfigTemplate

open Json

/-! ### Words and numbers of JSON texts -/

namespace Json.Numeral

theorem startsWord_eq_false_of_isDigit {c : Char} (digit : c.isDigit = true) :
  Lexeme.startsWord c = false
  := by
  by_contra starts
  have := Lexeme.startsNumber_eq_false_of_startsWord (by simpa using starts)
  simp [Lexeme.startsNumber, digit] at this

theorem isDigit_getLast_append (front : List Char) {digits : List Char}
    (isDigits : IsDigits digits) :
  ∃ d ∈ (front ++ digits).getLast?, d.isDigit = true
  := by
  have last := List.getLast?_eq_some_getLast isDigits.1
  rw [List.getLast?_append_of_ne_nil _ isDigits.1]
  exact ⟨_, last, isDigits.2 _ (List.getLast_mem isDigits.1)⟩

/-- What stands in front of an exponent has no letters and ends in a digit. -/
theorem mantissa {n : Numeral} (valid : n.Valid) :
  (∀ c ∈ (if n.negative then ['-'] else []) ++ n.whole ++ fractionChars n.fraction,
      Lexeme.startsWord c = false)
    ∧ ∃ d ∈ ((if n.negative then ['-'] else []) ++ n.whole ++ fractionChars n.fraction).getLast?,
      d.isDigit = true
  := by
  have sign : ∀ c ∈ (if n.negative then ['-'] else []), Lexeme.startsWord c = false := by
    cases n.negative with
    | false => exact List.forall_mem_nil _
    | true => exact List.forall_mem_singleton.2 rfl
  have whole : ∀ c ∈ n.whole, Lexeme.startsWord c = false := fun c mem =>
    startsWord_eq_false_of_isDigit (valid.whole.2 c mem)
  simp only [List.forall_mem_append]
  cases fraction : n.fraction with
  | none =>
    refine ⟨⟨⟨sign, whole⟩, List.forall_mem_nil _⟩, ?_⟩
    rw [fractionChars, List.append_nil]
    exact isDigit_getLast_append _ valid.whole
  | some digits =>
    have isDigits := valid.fraction digits fraction
    refine ⟨⟨⟨sign, whole⟩, List.forall_mem_cons.2 ⟨rfl, fun c mem =>
      startsWord_eq_false_of_isDigit (isDigits.2 c mem)⟩⟩, ?_⟩
    rw [fractionChars, List.append_cons]
    exact isDigit_getLast_append _ isDigits

/-- A letter of a numeral stands directly behind a digit. -/
theorem isDigit_of_startsWord {n : Numeral} (valid : n.Valid) {letter c : Char}
    {front back : List Char} (split : n.spelled letter = front ++ c :: back)
    (starts : Lexeme.startsWord c = true) :
  ∃ d ∈ front.getLast?, d.isDigit = true
  := by
  obtain ⟨noLetter, last⟩ := mantissa valid
  rcases Quotation.cut_cases split with ⟨mid, here, -⟩ | ⟨mid, rfl, behind⟩
  · rw [noLetter c (by simp [here])] at starts
    contradiction
  cases mid with
  | nil => simpa using last
  | cons d mid =>
    cases exponent : n.exponent with
    | none => simp [exponent, exponentChars] at behind
    | some part =>
      obtain ⟨sign, digits⟩ := part
      rw [exponent] at behind
      have later : sign.toList ++ digits = mid ++ c :: back := (List.cons.inj behind).2
      have mem : c ∈ sign.toList ++ digits := by simp [later]
      rcases List.mem_append.1 mem with isSign | isDigit
      · rcases valid.sign _ exponent c (by simpa using isSign) with rfl | rfl
        · contradiction
        · contradiction
      · rw [startsWord_eq_false_of_isDigit ((valid.exponent _ exponent).2 c isDigit)] at starts
        contradiction

end Json.Numeral

/-- A lexeme that is a number is a numeral. -/
def Lexeme.IsNumeral : Lexeme → Prop
  | .number cs => ∃ n : NumeralText, n.chars = cs
  | _ => True

theorem isNumeral_of_toValue {cs : List Char} {value : Value}
    (accepted : (Document.ofChars cs).toValue = .ok value) :
  ∀ lexeme ∈ lexemes cs, lexeme.IsNumeral
  := by
  obtain ⟨t, rfl, -, -⟩ := exists_sheet_of_toValue accepted
  rw [t.lexemes_chars Literal.proper_lexeme]
  apply t.forall_lexemes (P := Lexeme.IsNumeral) (fun _ => trivial) (fun _ => trivial)
  rintro (_ | truth | n | pieces)
  · trivial
  · cases truth <;> trivial
  · exact ⟨n, rfl⟩
  · trivial

theorem continuesNumber_eq_false_of_isKeyword {c : Char} {rest : List Char}
    (keyword : isKeyword (c :: rest) = true) :
  Lexeme.continuesNumber c = false
  := by
  simp only [isKeyword, Bool.or_eq_true, beq_iff_eq] at keyword
  rcases keyword with (isTrue | isFalse) | isNull
  · obtain ⟨rfl, -⟩ := List.cons.inj isTrue
    rfl
  · obtain ⟨rfl, -⟩ := List.cons.inj isFalse
    rfl
  · obtain ⟨rfl, -⟩ := List.cons.inj isNull
    rfl

/-- No word of a JSON text starts with a letter of exponents. -/
theorem not_startsWord_of_toValue {front back : List Char} {c : Char} {value : Value}
    (accepted : (Document.ofChars (front ++ c :: back)).toValue = .ok value)
    (inNumber : Lexeme.continuesNumber c = true) :
  ¬Quotation.StartsWord front c
  := by
  intro word
  have found : Quotation.Found (lexemes (front ++ c :: back)) front c back :=
    Quotation.exists_lexeme_of_startsWord rfl word
  rcases found with
    ⟨before, after, split, -⟩ | ⟨before, after, part, rest, split, rfl, nonempty, -⟩
  · have keyword := plain_of_toValue accepted (.word (c :: back.takeWhile Lexeme.continuesWord))
      (by rw [split]; simp)
    rw [continuesNumber_eq_false_of_isKeyword keyword] at inNumber
    contradiction
  · obtain ⟨n, spelled⟩ :=
      isNumeral_of_toValue accepted (.number (part ++ c :: rest)) (by rw [split]; simp)
    obtain ⟨d, last, digit⟩ := Numeral.isDigit_of_startsWord n.valid spelled word.starts
    have noWord := word.fresh d (by rwa [List.getLast?_append_of_ne_nil _ nonempty])
    simp [Lexeme.continuesWord, Char.isAlphanum, digit] at noWord

/-! ### What is written -/

/-- A value is written from outside of strings to outside of strings. -/
theorem behind_writtenAs (v : Scalar) (form : Form) :
  Quotation.outside.behind (v.writtenAs form) = .outside
  := by
  have string (text : String) : Quotation.outside.behind (stringChars text.toList) = .outside := by
    have closed : (Lexeme.quoted (text.toList.flatMap escapedChar)).Closed :=
      isContent_escaped text.toList
    exact Quotation.behind_chars closed
  cases form with
  | quoted => apply string
  | bare =>
    cases v with
    | boolean truth => exact Quotation.behind_outside (by cases truth <;> decide)
    | number n => exact Quotation.behind_outside n.quote_notMem_chars
    | text s => apply string

theorem behind_written (b : Bindings) {lexeme : Lexeme} (closed : lexeme.Closed) :
  Quotation.outside.behind (b.written lexeme) = .outside
  := by
  rcases b.written_cases lexeme with same | ⟨form, _, v, -, -, same⟩
  · rw [same, Quotation.behind_chars closed]
  · rw [same, behind_writtenAs]

/-! ### Identifiers of a template -/

/-- An identifier of a text at its place: letters, digits and underscores of which the first is no
digit, outside of strings, and with no further one on either side. -/
structure IsIdentifier (source front name back : List Char) : Prop where
  text : source = front ++ name ++ back
  outside : Quotation.outside.behind front = .outside
  starts : name.head?.any Lexeme.startsWord = true
  continues : ∀ c ∈ name, Lexeme.continuesWord c = true
  fresh : ∀ c ∈ front.getLast?, Lexeme.continuesWord c = false
  ends : ∀ c ∈ back.head?, Lexeme.continuesWord c = false

namespace Template

variable {t : Template} {b : Bindings} {mode : RenderMode}

/-- An identifier of a template that is rendered is a lexeme of it. -/
theorem exists_word_of_isIdentifier {value : Value} {front name back : List Char}
    (accepted : (Document.ofChars (t.filledChars b)).toValue = .ok value)
    (identifier : IsIdentifier t.source.toList front name back) :
  ∃ before after, t.row = before ++ .word name :: after ∧ before.flatMap Lexeme.chars = front
  := by
  obtain ⟨text, outside, starts, continues, fresh, ends⟩ := identifier
  cases name with
  | nil => contradiction
  | cons c letters =>
    have word : Quotation.StartsWord front c := ⟨outside, starts, fresh⟩
    have split : t.source.toList = front ++ c :: (letters ++ back) := by simpa using text
    rw [List.forall_mem_cons] at continues
    rcases Quotation.exists_lexeme_of_startsWord split word with
      ⟨before, after, parts, same⟩ | ⟨before, after, part, rest, parts, rfl, nonempty, inNumber⟩
    · rw [(span_append continues.2 ends).1] at parts
      exact ⟨before, after, parts, same⟩
    · have closed : ∀ lexeme ∈ before ++ .number (part ++ c :: rest) :: after, lexeme.Closed := by
        rw [← parts]
        exact closed_row accepted
      simp only [List.forall_mem_append, List.forall_mem_cons] at closed
      obtain ⟨closedBefore, closedNumber, -⟩ := closed
      have filled : t.filledChars b = (before.flatMap b.written ++ part)
          ++ c :: (rest ++ after.flatMap b.written) := by
        rw [filledChars, row, parts]
        simp [Bindings.written, Lexeme.placeholder?, Lexeme.chars]
      have noQuote : '"' ∉ part := fun mem => closedNumber (List.mem_append_left _ mem)
      have again : Quotation.StartsWord (before.flatMap b.written ++ part) c := {
        outside := by
          rw [Quotation.behind_append, Quotation.behind_flatMap fun lexeme mem =>
            behind_written b (closedBefore lexeme mem), Quotation.behind_outside noQuote]
        starts := starts
        fresh := by
          rw [List.getLast?_append_of_ne_nil _ nonempty] at fresh ⊢
          exact fresh }
      rw [filled] at accepted
      exact absurd again (not_startsWord_of_toValue accepted inNumber)

/-- A word of a template without stray identifiers is a word of JSON or a placeholder. -/
theorem exists_occurrence_of_word {name : List Char} {before after : List Lexeme}
    (noStrays : t.strayNames = []) (split : t.row = before ++ .word name :: after) :
  isKeyword name = true ∨
    ∃ o ∈ t.occurrences, o.form = .bare ∧ o.name = String.ofList name
      ∧ o.start = byteLength (before.flatMap Lexeme.chars) ∧ o.stop = o.start + byteLength name
  := by
  cases keyword : isKeyword name with
  | true => exact .inl rfl
  | false =>
    have found : (Lexeme.word name).identifier? = some (.bare, name) := by
      simp [Lexeme.identifier?, keyword]
    obtain ⟨o, shape, token, start, stop, all⟩ :=
      exists_identifiers_cons found (before.flatMap Lexeme.chars) after
    have mem : o ∈ identifiersOf t.source.toList := by
      rw [identifiersOf, show lexemes t.source.toList = _ from split, identifiers_append, all]
      simp
    have placeholder : o.isPlaceholder = true := by
      by_contra stray
      have isStray : o ∈ straysOf t.source.toList :=
        List.mem_filter.2 ⟨mem, by simpa using stray⟩
      have := List.mem_map_of_mem (f := (·.name)) isStray
      rw [show List.map _ _ = [] from noStrays] at this
      contradiction
    obtain ⟨form, isName⟩ := Prod.mk.inj shape
    refine .inr ⟨o, List.mem_filter.2 ⟨mem, placeholder⟩, form, ?_, start, ?_⟩
    · rw [← isName, String.ofList_toList]
    · rw [stop, start, byteLength_append]
      rfl

/-- **Rendered templates are scanned to their ends.**  The scan of a template ends early exactly if
the end of the template is in a string, and then the template is not rendered.  Where a template is
rendered, all of it is closed lexemes, and every identifier outside of strings is a word of JSON or
a placeholder at its place, with a value. -/
theorem render_scanned (t : Template) (b : Bindings) (mode : RenderMode) :
  ((∃ rest, .unclosed rest ∈ t.row) ↔ Quotation.outside.behind t.source.toList ≠ .outside) ∧
  ((∃ rest, .unclosed rest ∈ t.row) → ∀ r, t.render b mode ≠ .ok r) ∧
  ∀ r, t.render b mode = .ok r →
    (∀ lexeme ∈ t.row, lexeme.Closed) ∧
    ∀ front name back, IsIdentifier t.source.toList front name back →
      isKeyword name = true ∨
      ∃ o ∈ t.occurrences, o.form = .bare ∧ o.name = String.ofList name
        ∧ o.start = byteLength front ∧ o.stop = o.start + byteLength name
        ∧ ∃ v, b.get? o.name = some v
  := by
  have due (r : Rendered) (rendered : t.render b mode = .ok r) :
      t.Ready b mode ∧ ∃ value, (Document.ofChars (t.filledChars b)).toValue = .ok value :=
    exists_ready_of_isOk (by rw [rendered]; rfl)
  refine ⟨?_, ?_, ?_⟩
  · rw [ne_eq, Quotation.behind_eq_outside_iff]
    simp [row]
  · rintro ⟨rest, unclosed⟩ r rendered
    obtain ⟨-, value, accepted⟩ := due r rendered
    exact closed_row accepted _ unclosed
  · intro r rendered
    obtain ⟨ready, value, accepted⟩ := due r rendered
    refine ⟨closed_row accepted, ?_⟩
    intro front name back identifier
    obtain ⟨before, after, split, rfl⟩ := exists_word_of_isIdentifier accepted identifier
    rcases exists_occurrence_of_word ready.noStrays split with
      keyword | ⟨o, mem, form, isName, start, stop⟩
    · exact .inl keyword
    · have bound := ready.bound o.name (List.mem_map_of_mem mem)
      exact .inr ⟨o, mem, form, isName, start, stop, Option.isSome_iff_exists.1 bound⟩

end Template

end ConfigTemplate
