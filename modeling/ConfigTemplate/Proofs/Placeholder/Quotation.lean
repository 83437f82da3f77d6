import ConfigTemplate.Proofs.Placeholder.Strings

/-!
# Places outside of strings

Whether a place of a text is in a string is decided by the characters in front of it, one after the
other, without cutting the text into lexemes.  The text has lexemes up to its end exactly if its end
is outside of strings, `behind_eq_outside_iff`, and a word that starts outside of strings is a lexeme
of its own, or else starts within a number: `exists_lexeme_of_outside`.
-/

namespace ConfigTemplate

/-- Where a place of a text is, as far as strings go. -/
inductive Quotation where
  /-- Outside of strings. -/
  | outside
  /-- In a string. -/
  | inside
  /-- In a string, directly behind a backslash. -/
  | escaped
deriving DecidableEq

namespace Quotation

/-- Passes a character.  A quote opens and closes a string, and a backslash takes the character
behind it with it. -/
def step : Quotation → Char → Quotation
  | .outside, c => if c = '"' then .inside else .outside
  | .inside, c => if c = '"' then .outside else if c = '\\' then .escaped else .inside
  | .escaped, _ => .inside

/-- Passes the characters of a text. -/
def behind (q : Quotation) (cs : List Char) : Quotation := cs.foldl step q

variable {q : Quotation} {c : Char} {cs : List Char}

@[simp]
theorem behind_nil :
  q.behind [] = q
  := rfl

@[simp]
theorem behind_cons :
  q.behind (c :: cs) = (q.step c).behind cs
  := rfl

@[simp]
theorem behind_append {front back : List Char} :
  q.behind (front ++ back) = (q.behind front).behind back
  := List.foldl_append

theorem step_outside (h : c ≠ '"') :
  outside.step c = outside
  := if_neg h

theorem behind_outside (noQuote : '"' ∉ cs) :
  outside.behind cs = outside
  := by
  induction cs with
  | nil => rfl
  | cons c rest ih =>
    rw [List.mem_cons, not_or] at noQuote
    rw [behind_cons, step_outside (Ne.symm noQuote.1), ih noQuote.2]

/-! ### Strings -/

/-- Nowhere in the text a string ends that is open in front of it. -/
def StaysInside (cs : List Char) : Prop :=
  ∀ front, front <+: cs → inside.behind front ≠ outside

theorem staysInside_nil :
  StaysInside []
  := by
  intro front starts
  rw [List.prefix_nil.1 starts]
  decide

theorem StaysInside.cons {rest : List Char} (notQuote : c ≠ '"') (plain : c ≠ '\\')
    (h : StaysInside rest) :
  StaysInside (c :: rest)
  := by
  intro front starts
  rcases List.prefix_cons_iff.1 starts with rfl | ⟨tail, rfl, within⟩
  · decide
  · have same : inside.step c = inside := by simp [step, notQuote, plain]
    rw [behind_cons, same]
    exact h tail within

theorem StaysInside.escape {rest : List Char} (h : StaysInside rest) :
  StaysInside ('\\' :: c :: rest)
  := by
  intro front starts
  rcases List.prefix_cons_iff.1 starts with rfl | ⟨_, rfl, behindBackslash⟩
  · decide
  rcases List.prefix_cons_iff.1 behindBackslash with rfl | ⟨tail, rfl, within⟩
  · decide
  · exact h tail within

/-- The content of a string keeps to the string. -/
theorem behind_content {content : List Char} (closed : Lexeme.isContent content = true) :
  StaysInside content ∧ inside.behind content = inside
  := by
  fun_induction Lexeme.isContent content with
  | case1 => exact ⟨staysInside_nil, rfl⟩
  | case2 => contradiction
  | case3 c rest ih =>
    obtain ⟨stays, ends⟩ := ih closed
    exact ⟨stays.escape, ends⟩
  | case4 c rest notLast notEscape ih =>
    simp only [Bool.and_eq_true, bne_iff_ne, ne_eq] at closed
    have plain := Lexeme.ne_backslash notLast notEscape
    obtain ⟨stays, ends⟩ := ih closed.2
    refine ⟨stays.cons closed.1 plain, ?_⟩
    simpa [step, closed.1, plain] using ends

/-- A string that is not closed does not end. -/
theorem staysInside_of_unclosed (unclosed : Lexeme.closeString cs = none) :
  StaysInside cs
  := by
  fun_induction Lexeme.closeString cs with
  | case1 => exact staysInside_nil
  | case2 =>
    intro front starts
    rcases List.prefix_cons_iff.1 starts with rfl | ⟨_, rfl, nothing⟩
    · decide
    · rw [List.prefix_nil.1 nothing]
      decide
  | case3 c rest ih => exact (ih (Option.map_eq_none_iff.1 unclosed)).escape
  | case4 => contradiction
  | case5 c rest notLast notEscape notQuote ih =>
    have plain := Lexeme.ne_backslash notLast notEscape
    exact (ih (Option.map_eq_none_iff.1 unclosed)).cons (by simpa using notQuote) plain

/-! ### Lexemes -/

/-- A closed lexeme leads from outside of strings to outside of strings. -/
theorem behind_chars {lexeme : Lexeme} (closed : lexeme.Closed) :
  outside.behind lexeme.chars = outside
  := by
  cases lexeme with
  | quoted content =>
    have ends := (behind_content closed).2
    simp [Lexeme.chars, step, ends]
  | unclosed => contradiction
  | number cs | word cs => exact behind_outside closed
  | other c => exact behind_outside (by simpa [Lexeme.chars] using Ne.symm closed)

theorem behind_flatMap {text : Lexeme → List Char} {row : List Lexeme}
    (passed : ∀ lexeme ∈ row, outside.behind (text lexeme) = outside) :
  outside.behind (row.flatMap text) = outside
  := by
  induction row with
  | nil => rfl
  | cons lexeme row ih =>
    rw [List.forall_mem_cons] at passed
    rw [List.flatMap_cons, behind_append, passed.1, ih passed.2]

/-- The end of a text is outside of strings exactly if the text has lexemes up to its end. -/
theorem behind_eq_outside_iff (source : List Char) :
  outside.behind source = outside ↔ ∀ rest, .unclosed rest ∉ lexemes source
  := by
  have whole := flatMap_chars_lexemes source
  rcases closed_or_unfinished source with closed | ⟨front, rest, shape, unclosed, closed⟩
  · have passed : outside.behind source = outside := by
      rw [← whole]
      exact behind_flatMap fun lexeme mem => behind_chars (closed lexeme mem)
    have none : ∀ rest, .unclosed rest ∉ lexemes source := fun rest mem => closed _ mem
    exact iff_of_true passed none
  · have stays : outside.behind source ≠ outside := by
      rw [← whole, shape, List.flatMap_append, behind_append,
        behind_flatMap fun lexeme mem => behind_chars (closed lexeme mem)]
      simpa [Lexeme.chars, step] using staysInside_of_unclosed unclosed rest (List.prefix_refl _)
    apply iff_of_false stays
    intro none
    exact none rest (by simp [shape])

/-- A place of a text that is put together from two parts is in one of them. -/
theorem cut_cases {first second front back : List Char}
    (same : first ++ second = front ++ c :: back) :
  (∃ mid, first = front ++ c :: mid ∧ back = mid ++ second)
    ∨ ∃ mid, front = first ++ mid ∧ second = mid ++ c :: back
  := by
  rcases List.append_eq_append_iff.1 same with ⟨mid, rfl, rfl⟩ | ⟨mid, rfl, split⟩
  · exact .inr ⟨mid, rfl, rfl⟩
  · rcases List.cons_eq_append_iff.1 split with ⟨rfl, rfl⟩ | ⟨tail, rfl, rfl⟩
    · exact .inr ⟨[], by simp, rfl⟩
    · exact .inl ⟨tail, by simp, rfl⟩

/-- A word starts behind a text: outside of strings, and not in the middle of a word. -/
structure StartsWord (front : List Char) (c : Char) : Prop where
  outside : Quotation.outside.behind front = .outside
  starts : Lexeme.startsWord c = true
  fresh : ∀ d ∈ front.getLast?, Lexeme.continuesWord d = false

theorem StartsWord.of_append {first mid : List Char} (word : StartsWord (first ++ mid) c)
    (passed : Quotation.outside.behind first = .outside) :
  StartsWord mid c
  where
  outside := by simpa [passed] using word.outside
  starts := word.starts
  fresh d last := word.fresh d (by simp [List.getLast?_append, Option.mem_def.1 last])

/-- No word starts where a string is open. -/
theorem not_startsWord_open {text front : List Char} (stays : StaysInside text)
    (start : front <+: text) :
  ¬StartsWord ('"' :: front) c
  := fun word => stays front start word.outside

/-- No word starts within a string, quotes included. -/
theorem not_startsWord_quoted {content front mid : List Char}
    (closed : Lexeme.isContent content = true)
    (here : (Lexeme.quoted content).chars = front ++ c :: mid) :
  ¬StartsWord front c
  := by
  intro word
  have starts := word.starts
  cases front with
  | nil =>
    obtain ⟨rfl, -⟩ := List.cons.inj here
    contradiction
  | cons d front =>
    obtain ⟨rfl, inner⟩ := List.cons.inj here
    rcases cut_cases inner with ⟨mid, rfl, -⟩ | ⟨mid, rfl, last⟩
    · exact not_startsWord_open (behind_content closed).1 (List.prefix_append _ _) word
    · obtain ⟨rfl, -⟩ : c = '"' ∧ mid = [] := by
        cases mid with
        | nil => simpa using (List.cons.inj last).1.symm
        | cons e mid => simp at last
      contradiction

/-- Within a word another one starts only where the word itself does. -/
theorem eq_nil_of_within_word {d : Char} {letters front mid : List Char}
    (isWord : Lexeme.startsWord d = true)
    (continues : ∀ e ∈ letters, Lexeme.continuesWord e = true)
    (here : d :: letters = front ++ c :: mid) (word : StartsWord front c) :
  front = []
  := by
  cases front with
  | nil => rfl
  | cons e front =>
    have last := word.fresh _ (List.getLast?_eq_some_getLast (List.cons_ne_nil e front))
    have mem : (e :: front).getLast (List.cons_ne_nil e front) ∈ d :: letters := by
      rw [here]
      exact List.mem_append_left _ (List.getLast_mem _)
    rcases List.mem_cons.1 mem with first | later
    · rw [first, Lexeme.continuesWord_of_startsWord isWord] at last
      contradiction
    · rw [continues _ later] at last
      contradiction

/-- Among lexemes there is the word that starts with the character between the two texts, or a
number within which it stands. -/
def Found (row : List Lexeme) (front : List Char) (c : Char) (back : List Char) : Prop :=
  (∃ before after, row = before ++ .word (c :: back.takeWhile Lexeme.continuesWord) :: after
      ∧ before.flatMap Lexeme.chars = front)
    ∨ ∃ before after part rest, row = before ++ .number (part ++ c :: rest) :: after
        ∧ before.flatMap Lexeme.chars ++ part = front ∧ part ≠ []
        ∧ Lexeme.continuesNumber c = true

/-- What is found behind a lexeme is found behind it in the row. -/
theorem Found.cons {row : List Lexeme} {front back : List Char} (found : Found row front c back)
    (lexeme : Lexeme) :
  Found (lexeme :: row) (lexeme.chars ++ front) c back
  := by
  rcases found with ⟨before, after, rfl, rfl⟩ | ⟨before, after, part, rest, rfl, rfl, inNumber⟩
  · exact .inl ⟨lexeme :: before, after, rfl, rfl⟩
  · refine .inr ⟨lexeme :: before, after, part, rest, rfl, ?_, inNumber⟩
    simp

/-- A word starts within a lexeme or behind it. -/
theorem Found.of_split {lexeme : Lexeme} {row : List Lexeme} {left front back : List Char}
    (closed : lexeme.Closed) (split : lexeme.chars ++ left = front ++ c :: back)
    (word : StartsWord front c)
    (within : ∀ mid, lexeme.chars = front ++ c :: mid → back = mid ++ left →
      Found (lexeme :: row) front c back)
    (later : ∀ mid, left = mid ++ c :: back → StartsWord mid c → Found row mid c back) :
  Found (lexeme :: row) front c back
  := by
  rcases cut_cases split with ⟨mid, here, behind⟩ | ⟨mid, rfl, behind⟩
  · exact within mid here behind
  · exact (later mid behind (word.of_append (behind_chars closed))).cons lexeme

/-- A word of a text that starts outside of strings is a lexeme of the text, unless it starts
within a number. -/
theorem exists_lexeme_of_startsWord {source front back : List Char}
    (split : source = front ++ c :: back) (word : StartsWord front c) :
  Found (lexemes source) front c back
  := by
  have starts := word.starts
  fun_induction lexemes source generalizing front with
  | case1 => simp at split
  | case2 d rest quote unclosed =>
    obtain rfl : d = '"' := by simpa using quote
    cases front with
    | nil =>
      obtain ⟨rfl, -⟩ := List.cons.inj split
      contradiction
    | cons e front =>
      obtain ⟨rfl, rfl⟩ := List.cons.inj split
      have stays := staysInside_of_unclosed unclosed
      exact absurd word (not_startsWord_open stays (List.prefix_append _ _))
  | case3 d rest quote content left closed _ ih =>
    have isContent : (Lexeme.quoted content).Closed := Lexeme.isContent_of_closeString closed
    have whole : (Lexeme.quoted content).chars ++ left = front ++ c :: back := by
      obtain rfl : d = '"' := by simpa using quote
      rw [← split, Lexeme.eq_append_of_closeString closed]
      simp [Lexeme.chars]
    apply Found.of_split isContent whole word
    · intro mid here _
      exact absurd word (not_startsWord_quoted isContent here)
    · intro mid behind word
      exact ih behind word
  | case4 d rest notQuote number _ ih =>
    have closed : (Lexeme.number (d :: rest.takeWhile Lexeme.continuesNumber)).Closed :=
      quote_notMem_takeWhile (by decide) d (by simpa using notQuote) rest
    have whole : (Lexeme.number (d :: rest.takeWhile Lexeme.continuesNumber)).chars
        ++ rest.dropWhile Lexeme.continuesNumber = front ++ c :: back := by
      simpa [Lexeme.chars] using split
    apply Found.of_split closed whole word
    · intro mid here _
      cases front with
      | nil =>
        obtain ⟨rfl, -⟩ := List.cons.inj here
        rw [Lexeme.startsNumber_eq_false_of_startsWord starts] at number
        contradiction
      | cons e front =>
        have mem : c ∈ rest.takeWhile Lexeme.continuesNumber := by
          rw [(List.cons.inj here).2]
          simp
        exact .inr ⟨[], lexemes _, e :: front, mid, by rw [← here]; rfl, rfl,
          List.cons_ne_nil e front, List.mem_takeWhile_imp mem⟩
    · intro mid behind word
      exact ih behind word
  | case5 d rest notQuote notNumber isWord _ ih =>
    have closed : (Lexeme.word (d :: rest.takeWhile Lexeme.continuesWord)).Closed :=
      quote_notMem_takeWhile (by decide) d (by simpa using notQuote) rest
    have whole : (Lexeme.word (d :: rest.takeWhile Lexeme.continuesWord)).chars
        ++ rest.dropWhile Lexeme.continuesWord = front ++ c :: back := by
      simpa [Lexeme.chars] using split
    apply Found.of_split closed whole word
    · intro mid here behind
      obtain rfl := eq_nil_of_within_word isWord (fun _ => List.mem_takeWhile_imp) here word
      obtain ⟨rfl, rfl⟩ := List.cons.inj here
      rw [List.takeWhile_append_dropWhile] at behind
      exact .inl ⟨[], lexemes _, by rw [behind]; rfl, rfl⟩
    · intro mid behind word
      exact ih behind word
  | case6 d rest notQuote notNumber notWord ih =>
    have closed : (Lexeme.other d).Closed := by simpa [Lexeme.Closed] using notQuote
    have whole : (Lexeme.other d).chars ++ rest = front ++ c :: back := split
    apply Found.of_split closed whole word
    · intro mid here _
      cases front with
      | nil =>
        obtain ⟨rfl, -⟩ := List.cons.inj here
        contradiction
      | cons e front => simp [Lexeme.chars] at here
    · intro mid behind word
      exact ih behind word

end Quotation

end ConfigTemplate
