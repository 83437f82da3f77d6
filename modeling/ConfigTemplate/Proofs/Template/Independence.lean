import ConfigTemplate.Proofs.Json.Exchange
import ConfigTemplate.Proofs.Placeholder.Tokens
import ConfigTemplate.Proofs.Template.Rescan
import Mathlib.Data.List.Chain

/-!
# What rendering depends on

Whether a template is rendered depends on the values in two ways: a number joins the characters of
a number beside its placeholder, and a text becomes the key in front of a colon.  There are no
others.  If at every bare placeholder the values of two bindings are exchangeable, either both of
them are rendered or neither is: `isOk_render_independent`.
-/

namespace ConfigTemplate

open Json

/-! ### Lexemes side by side -/

theorem chars_ne_nil_of_mem_lexemes {source : List Char} :
  ∀ lexeme ∈ lexemes source, lexeme.chars ≠ []
  := by
  fun_induction lexemes source with
  | case1 => exact List.forall_mem_nil _
  | case2 => simp [Lexeme.chars]
  | case3 _ _ _ _ _ _ _ ih | case4 _ _ _ _ _ ih | case5 _ _ _ _ _ _ ih | case6 _ _ _ _ _ ih =>
    simpa [Lexeme.chars] using ih

/-- Whether a lexeme is a word. -/
def Lexeme.isWord : Lexeme → Bool
  | .word _ => true
  | _ => false

/-- Where no word starts the first lexeme is none. -/
theorem isWord_head_lexemes {cs : List Char} (none : ∀ c ∈ cs.head?, Lexeme.startsWord c = false) :
  ∀ lexeme ∈ (lexemes cs).head?, lexeme.isWord = false
  := by
  cases cs with
  | nil => simp [lexemes]
  | cons c rest =>
    have noWord : Lexeme.startsWord c = false := none c rfl
    rw [lexemes]
    simp only [noWord]
    grind [Lexeme.isWord]

/-- A word takes in every character that could start a word behind it. -/
theorem words_apart (source : List Char) :
  (lexemes source).IsChain fun lexeme next => lexeme.isWord = true → next.isWord = false
  := by
  fun_induction lexemes source with
  | case1 => exact .nil
  | case2 => exact .singleton _
  | case3 _ _ _ _ _ _ _ ih | case4 _ _ _ _ _ ih | case6 _ _ _ _ _ ih =>
    exact List.isChain_cons.2 ⟨fun _ _ isWord => absurd isWord Bool.false_ne_true, ih⟩
  | case5 c rest _ _ _ _ ih =>
    refine List.isChain_cons.2 ⟨fun next mem _ => isWord_head_lexemes ?_ next mem, ih⟩
    intro d first
    by_contra starts
    have continues := Lexeme.continuesWord_of_startsWord (by simpa using starts)
    have := List.head?_dropWhile_not Lexeme.continuesWord rest
    simp [show (rest.dropWhile Lexeme.continuesWord).head? = some d from first, continues] at this

theorem Lexeme.of_bare {lexeme : Lexeme} {name : List Char}
    (found : lexeme.placeholder? = some (.bare, name)) :
  lexeme = .word name ∧ isPlaceholderName name = true
  := by
  cases lexeme with
  | word cs =>
    simp only [placeholder?, Option.ite_none_right_eq_some, Option.some.injEq, Prod.mk.injEq]
      at found
    obtain ⟨isName, -, rfl⟩ := found
    exact ⟨rfl, isName⟩
  | quoted | unclosed | number | other => simp [placeholder?] at found

theorem Lexeme.of_quoted {lexeme : Lexeme} {name : List Char}
    (found : lexeme.placeholder? = some (.quoted, name)) :
  lexeme = .quoted name ∧ isPlaceholderName name = true
  := by
  cases lexeme with
  | quoted content =>
    simp only [placeholder?, Option.ite_none_right_eq_some, Option.some.injEq, Prod.mk.injEq]
      at found
    obtain ⟨isName, -, rfl⟩ := found
    exact ⟨rfl, isName⟩
  | word | unclosed | number | other => simp [placeholder?] at found

/-! ### What is written beside a placeholder -/

namespace Bindings

/-- Every value is a truth value, an integer of at most 64 bits, or a text. -/
def Whole (b : Bindings) : Prop := ∀ name v, b.get? name = some v → v.Whole

theorem whole_empty :
  empty.Whole
  := by
  intro name v bound
  contradiction

theorem Whole.insert {b : Bindings} (h : b.Whole) (name : String) {v : Scalar} (whole : v.Whole) :
  (b.insert name v).Whole
  := by
  intro other w bound
  rw [Bindings.insert, get?, Dictionary.get?_insert] at bound
  split at bound
  · exact Option.some.inj bound ▸ whole
  · exact h other w bound

/-- Bindings with the same names have values at the same places. -/
theorem contains_congr {b c : Bindings} (names : b.names = c.names) (name : String) :
  b.contains name = c.contains name
  := by
  rw [Bool.eq_iff_iff, contains, contains, Dictionary.contains_iff, Dictionary.contains_iff]
  exact iff_of_eq (congrArg (name ∈ ·) names)

variable {b : Bindings}

theorem written_of_none {lexeme : Lexeme} (none : lexeme.placeholder? = none) :
  b.written lexeme = lexeme.chars
  := by
  rw [written, none]

theorem written_of_bound {lexeme : Lexeme} {form : Form} {name : List Char} {v : Scalar}
    (found : lexeme.placeholder? = some (form, name))
    (bound : b.get? (String.ofList name) = some v) :
  b.written lexeme = v.writtenAs form
  := by
  simp [written, found, bound]

/-- A lexeme is written as it is, or with its value. -/
theorem written_cases (b : Bindings) (lexeme : Lexeme) :
  b.written lexeme = lexeme.chars
    ∨ ∃ form name v, lexeme.placeholder? = some (form, name)
        ∧ b.get? (String.ofList name) = some v ∧ b.written lexeme = v.writtenAs form
  := by
  cases found : lexeme.placeholder? with
  | none => exact .inl (written_of_none found)
  | some shape =>
    obtain ⟨form, name⟩ := shape
    cases bound : b.get? (String.ofList name) with
    | none => left; simp [written, found, bound]
    | some v => exact .inr ⟨form, name, v, rfl, bound, written_of_bound found bound⟩

/-- A colon that comes first in what is written, blanks apart, comes first in the template. -/
theorem colon_of_written (whole : b.Whole) {row : List Lexeme}
    (colon : ((row.flatMap b.written).dropWhile isSpace).head? = some ':') :
  ((row.flatMap Lexeme.chars).dropWhile isSpace).head? = some ':'
  := by
  induction row with
  | nil => contradiction
  | cons lexeme row ih =>
    rw [List.flatMap_cons] at colon ⊢
    rcases b.written_cases lexeme with same | ⟨form, _, v, -, bound, same⟩
    · rw [same, List.dropWhile_append] at colon
      rw [List.dropWhile_append]
      split
      · next blank =>
        rw [if_pos blank] at colon
        exact ih colon
      · next visible =>
        rw [List.isEmpty_iff] at visible
        rw [if_neg (by simpa using visible), List.head?_append_of_ne_nil _ visible] at colon
        rwa [List.head?_append_of_ne_nil _ visible]
    · cases form with
      | quoted => simp [same, Scalar.writtenAs, Scalar.quotedChars, stringChars, isSpace] at colon
      | bare =>
        obtain ⟨l, spells, -⟩ := exists_literal (whole _ v bound)
        obtain ⟨c, tail, shape, blank, -⟩ := l.exists_cons_chars
        rw [same, Scalar.writtenAs, spells, shape, List.cons_append,
          List.dropWhile_cons_of_neg (by simp [blank])] at colon
        obtain rfl : c = ':' := by simpa using colon
        have := Twin.startsLiteral_of_chars shape
        contradiction

/-- What is written behind a word goes on with a number only if the template does. -/
theorem head_written {row : List Lexeme} (nonempty : ∀ lexeme ∈ row, lexeme.chars ≠ [])
    (apart : ∀ next ∈ row.head?, next.isWord = false)
    (ends : (row.flatMap Lexeme.chars).head?.any Lexeme.continuesNumber = false) :
  (row.flatMap b.written).head?.any Lexeme.continuesNumber = false
  := by
  cases row with
  | nil => rfl
  | cons lexeme row =>
    rw [List.flatMap_cons] at ends ⊢
    rcases b.written_cases lexeme with same | ⟨form, _, v, found, -, same⟩
    · rw [List.head?_append_of_ne_nil _ (nonempty lexeme List.mem_cons_self)] at ends
      rwa [same, List.head?_append_of_ne_nil _ (nonempty lexeme List.mem_cons_self)]
    · cases form with
      | quoted =>
        rw [same]
        rfl
      | bare =>
        obtain ⟨rfl, -⟩ := Lexeme.of_bare found
        have := apart _ rfl
        contradiction

/-- What is written in front of a word leads up to a number only if the template does. -/
theorem last_written {row : List Lexeme} (nonempty : ∀ lexeme ∈ row, lexeme.chars ≠ [])
    (apart : ∀ last ∈ row.getLast?, last.isWord = false)
    (fresh : (row.flatMap Lexeme.chars).getLast?.any Lexeme.continuesNumber = false) :
  (row.flatMap b.written).getLast?.any Lexeme.continuesNumber = false
  := by
  rcases List.eq_nil_or_concat row with rfl | ⟨row, lexeme, rfl⟩
  · rfl
  · have filled := nonempty lexeme (by simp)
    simp only [List.concat_eq_append, List.flatMap_append, List.flatMap_singleton] at fresh ⊢
    rcases b.written_cases lexeme with same | ⟨form, _, v, found, -, same⟩
    · rw [List.getLast?_append_of_ne_nil _ filled] at fresh
      rwa [same, List.getLast?_append_of_ne_nil _ filled]
    · cases form with
      | quoted =>
        rw [same, Scalar.writtenAs, Scalar.quotedChars, stringChars, ← List.append_assoc,
          List.getLast?_concat]
        rfl
      | bare =>
        obtain ⟨rfl, -⟩ := Lexeme.of_bare found
        have := apart _ (by rw [List.concat_eq_append, List.getLast?_concat]; rfl)
        contradiction

/-- A value that stays in its place in the template stays there in what is written. -/
theorem reachesOut_written (whole : b.Whole) {source name : List Char} {front back : List Lexeme}
    (split : lexemes source = front ++ .word name :: back) {v : Value}
    (stays : v.reachesOut (front.flatMap Lexeme.chars).getLast? (back.flatMap Lexeme.chars)
      = false) :
  v.reachesOut (front.flatMap b.written).getLast? (back.flatMap b.written) = false
  := by
  have nonempty : ∀ lexeme ∈ lexemes source, lexeme.chars ≠ [] := chars_ne_nil_of_mem_lexemes
  have apart := words_apart source
  rw [split] at nonempty apart
  rw [List.forall_mem_append, List.forall_mem_cons] at nonempty
  obtain ⟨-, chain, beside⟩ := List.isChain_append.1 apart
  cases v with
  | number n =>
    simp only [Value.reachesOut, Bool.or_eq_false_iff] at stays ⊢
    constructor
    · refine last_written nonempty.1 ?_ stays.1
      intro last mem
      by_contra isWord
      have := beside last mem _ rfl (by simpa using isWord)
      contradiction
    · exact head_written nonempty.2.2 (fun next mem => (List.isChain_cons.1 chain).1 next mem rfl)
        stays.2
  | string s =>
    by_contra reaches
    have colon : ((back.flatMap b.written).dropWhile isSpace).head? = some ':' := by
      simpa [Value.reachesOut] using reaches
    have := colon_of_written whole colon
    simp [Value.reachesOut, this] at stays
  | null | boolean | array | object => rfl

end Bindings

/-! ### Values at their places -/

namespace Template

/-- The text in front of an occurrence. -/
def before (t : Template) (o : Occurrence) : List Char :=
  (Text.splitBytes o.start t.source.toList).1

/-- The text behind an occurrence. -/
def after (t : Template) (o : Occurrence) : List Char :=
  (Text.splitBytes o.stop t.source.toList).2

/-- A value would reach beyond the place of an occurrence. -/
def reachesOut (t : Template) (o : Occurrence) (v : Scalar) : Bool :=
  v.toValue.reachesOut (t.before o).getLast? (t.after o)

/-- Two values at an occurrence are the same, or are both texts, or both stay in their place. -/
inductive Exchangeable (t : Template) (o : Occurrence) : Scalar → Scalar → Prop where
  | same (v : Scalar) : Exchangeable t o v v
  | texts (s s' : String) : Exchangeable t o (.text s) (.text s')
  | stay {v w : Scalar} (first : t.reachesOut o v = false) (second : t.reachesOut o w = false) :
    Exchangeable t o v w

theorem Exchangeable.symm {t : Template} {o : Occurrence} {v w : Scalar}
    (h : t.Exchangeable o v w) :
  t.Exchangeable o w v
  := by
  cases h with
  | same => exact .same v
  | texts s s' => exact .texts s' s
  | stay first second => exact .stay second first

/-- Every value of a bare placeholder stays in its place. -/
def InPlace (t : Template) (b : Bindings) : Prop :=
  ∀ o ∈ t.occurrences, o.form = .bare → ∀ v ∈ b.get? o.name, t.reachesOut o v = false

/-- Bindings of whole values to the same names that are exchangeable at every bare placeholder. -/
structure Alike (t : Template) (b c : Bindings) : Prop where
  first : b.Whole
  second : c.Whole
  names : b.names = c.names
  exchangeable : ∀ o ∈ t.occurrences, o.form = .bare → ∀ v ∈ b.get? o.name, ∀ w ∈ c.get? o.name,
    t.Exchangeable o v w

theorem Alike.symm {t : Template} {b c : Bindings} (alike : t.Alike b c) :
  t.Alike c b
  where
  first := alike.second
  second := alike.first
  names := alike.names.symm
  exchangeable o mem bare w bound v bound' :=
    (alike.exchangeable o mem bare v bound' w bound).symm

variable {t : Template} {b c : Bindings}

/-- A lexeme that is a placeholder is an occurrence at its place. -/
theorem exists_occurrence {front back : List Lexeme} {lexeme : Lexeme} {form : Form}
    {name : List Char} (split : t.row = front ++ lexeme :: back)
    (found : lexeme.placeholder? = some (form, name)) :
  ∃ o ∈ t.occurrences, o.form = form ∧ o.name = String.ofList name
    ∧ t.before o = front.flatMap Lexeme.chars ∧ t.after o = back.flatMap Lexeme.chars
  := by
  have text : t.source.toList
      = front.flatMap Lexeme.chars ++ (lexeme.chars ++ back.flatMap Lexeme.chars) := by
    rw [← flatMap_chars_lexemes t.source.toList, show lexemes t.source.toList = _ from split]
    simp
  have mem : Occurrence.behind (front.flatMap Lexeme.chars) form name lexeme.chars
      ∈ t.occurrences := by
    rw [occurrences, placeholdersOf, identifiersOf, show lexemes t.source.toList = _ from split,
      identifiers_append, List.filter_append, filter_identifiers_cons, found]
    have stop := (Mark.start.afterAll (front.flatMap Lexeme.chars)).offset_afterAll lexeme.chars
    rw [Mark.afterAll_start] at stop ⊢
    simp [Occurrence.behind, stop]
  refine ⟨_, mem, rfl, rfl, ?_, ?_⟩
  · rw [before, text, Occurrence.behind, splitBytes_append]
  · rw [after, text, Occurrence.behind, ← byteLength_append, ← List.append_assoc,
      splitBytes_append]

end Template

/-! ### Writing a template twice -/

section

variable {β : Type} {leaf : β → Lexeme} {before behind : List Char}

/-- A closed lexeme is written twice as it is. -/
theorem Lexeme.Closed.twice {lexeme : Lexeme} (closed : lexeme.Closed) :
  Twice leaf before behind lexeme.chars lexeme.chars
  := by
  cases lexeme with
  | quoted content => exact .string closed fun pieces spelled => ⟨pieces, spelled⟩
  | unclosed => contradiction
  | number cs | word cs => exact .same closed
  | other c => exact .same (by simpa [chars] using Ne.symm closed)

/-- Two texts are written as strings. -/
theorem twice_stringChars (text other : List Char) :
  Twice leaf before behind (stringChars text) (stringChars other)
  := by
  apply Twice.string (isContent_escaped text)
  intro _ _
  obtain ⟨pieces, spelled, -⟩ := exists_pieces_of_escapedChars other
  exact ⟨pieces, spelled⟩

theorem twice_literalChars (v : Scalar) :
  Twice leaf before behind v.literalChars v.literalChars
  := by
  cases v with
  | boolean truth => exact .same (by cases truth <;> decide)
  | number n => exact .same n.quote_notMem_chars
  | text s => apply twice_stringChars

end

namespace Template

variable {t : Template} {b c : Bindings} {front back : List Lexeme} {lexeme : Lexeme}

/-- The values of a bare placeholder are written twice. -/
theorem Exchangeable.twice {o : Occurrence} {v w : Scalar} (h : t.Exchangeable o v w)
    (first : v.Whole) (second : w.Whole) {before behind : List Char}
    (stays : t.reachesOut o v = false →
      v.toValue.reachesOut before.getLast? behind = false) :
  Twice Literal.lexeme before behind v.literalChars w.literalChars
  := by
  cases h with
  | same => apply twice_literalChars
  | texts s s' => apply twice_stringChars
  | stay here _ =>
    obtain ⟨l, spells, same⟩ := Bindings.exists_literal first
    obtain ⟨m, spells', -⟩ := Bindings.exists_literal second
    rw [spells, spells']
    apply Twice.exchanged
    rw [same]
    exact stays here

/-- What two bindings that are alike write at a lexeme is written twice. -/
theorem Alike.twice (alike : t.Alike b c) (bound : ∀ name ∈ t.usedNames, b.contains name = true)
    (split : t.row = front ++ lexeme :: back) (closed : lexeme.Closed) :
  Twice Literal.lexeme (front.flatMap b.written) (back.flatMap b.written) (b.written lexeme)
    (c.written lexeme)
  := by
  cases found : lexeme.placeholder? with
  | none =>
    rw [Bindings.written_of_none found, Bindings.written_of_none found]
    exact closed.twice
  | some shape =>
    obtain ⟨form, name⟩ := shape
    obtain ⟨o, mem, sameForm, sameName, before, after⟩ := exists_occurrence split found
    have inFirst := bound o.name (List.mem_map_of_mem mem)
    have inSecond := inFirst
    rw [Bindings.contains_congr alike.names] at inSecond
    obtain ⟨v, first⟩ : ∃ v, b.get? o.name = some v := Option.isSome_iff_exists.1 inFirst
    obtain ⟨w, second⟩ : ∃ w, c.get? o.name = some w := Option.isSome_iff_exists.1 inSecond
    rw [Bindings.written_of_bound found (sameName ▸ first),
      Bindings.written_of_bound found (sameName ▸ second)]
    cases form with
    | quoted => apply twice_stringChars
    | bare =>
      have exchangeable := alike.exchangeable o mem sameForm v first w second
      apply exchangeable.twice (alike.first _ v first) (alike.second _ w second)
      intro stays
      obtain ⟨rfl, -⟩ := Lexeme.of_bare found
      rw [reachesOut, before, after] at stays
      exact Bindings.reachesOut_written alike.first split stays

/-- What stays in its place is a leaf of the template. -/
theorem InPlace.twice (inPlace : t.InPlace b) (whole : b.Whole)
    (bound : ∀ name ∈ t.usedNames, b.contains name = true)
    (split : t.row = front ++ lexeme :: back) (closed : lexeme.Closed) :
  Twice Slot.lexeme (front.flatMap b.written) (back.flatMap b.written) (b.written lexeme)
    lexeme.chars
  := by
  cases found : lexeme.placeholder? with
  | none =>
    rw [Bindings.written_of_none found]
    exact closed.twice
  | some shape =>
    obtain ⟨form, name⟩ := shape
    obtain ⟨o, mem, sameForm, sameName, before, after⟩ := exists_occurrence split found
    obtain ⟨v, here⟩ : ∃ v, b.get? o.name = some v :=
      Option.isSome_iff_exists.1 (bound o.name (List.mem_map_of_mem mem))
    rw [Bindings.written_of_bound found (sameName ▸ here)]
    cases form with
    | quoted =>
      obtain ⟨rfl, isName⟩ := Lexeme.of_quoted found
      have plain := flatMap_escapedChar_of_isPlaceholderName isName
      have same : (Lexeme.quoted name).chars = stringChars name := by
        rw [stringChars, plain]
        rfl
      rw [same]
      apply twice_stringChars
    | bare =>
      obtain ⟨rfl, isName⟩ := Lexeme.of_bare found
      obtain ⟨l, spells, same⟩ := Bindings.exists_literal (whole _ v here)
      have stays := inPlace o mem sameForm v here
      rw [reachesOut, before, after] at stays
      rw [Scalar.writtenAs, spells]
      apply Twice.exchanged (m := Slot.bare name isName)
      rw [same]
      exact Bindings.reachesOut_written whole split stays

/-- Bindings with the same names pass the same checks. -/
theorem Ready.congr {mode : RenderMode} (ready : t.Ready b mode) (names : b.names = c.names) :
  t.Ready c mode
  where
  noStrays := ready.noStrays
  bound name used := (Bindings.contains_congr names name).symm.trans (ready.bound name used)
  known strict name bound :=
    ready.known strict name ((Bindings.contains_congr names name).trans bound)

/-- What is rendered has been ready, and was read. -/
theorem exists_ready_of_isOk {mode : RenderMode} (rendered : (t.render b mode).isOk = true) :
  t.Ready b mode ∧ ∃ value, (Document.ofChars (t.filledChars b)).toValue = .ok value
  := by
  have outcome := outcome_render t b mode
  cases result : t.render b mode with
  | error e =>
    rw [result] at rendered
    contradiction
  | ok r =>
    rw [result] at outcome
    cases outcome with
    | rendered value ready accepted => exact ⟨ready, value, accepted⟩

theorem isOk_render_of_ready {mode : RenderMode} {value : Value} (ready : t.Ready b mode)
    (accepted : (Document.ofChars (t.filledChars b)).toValue = .ok value) :
  (t.render b mode).isOk = true
  := by
  rw [render_of_ready ready, accepted]
  rfl

/-- If one of two bindings that are alike is rendered, so is the other one. -/
theorem Alike.isOk_render {mode : RenderMode} (alike : t.Alike b c)
    (rendered : (t.render b mode).isOk = true) :
  (t.render c mode).isOk = true
  := by
  obtain ⟨ready, value, accepted⟩ := exists_ready_of_isOk rendered
  have twice := fun front lexeme back (split : t.row = front ++ lexeme :: back) =>
    alike.twice ready.bound split (closed_row accepted lexeme (by simp [split]))
  obtain ⟨u, shallow, text⟩ := exists_sheet_of_exchange (fun l => ⟨l, rfl⟩) twice accepted
  have read := Sheet.toValue_ofChars u shallow
  rw [text] at read
  exact isOk_render_of_ready (ready.congr alike.names) read

/-- A template that is rendered with every value in its place is laid out as an outline. -/
theorem InPlace.exists_sheet {mode : RenderMode} (inPlace : t.InPlace b) (whole : b.Whole)
    (rendered : (t.render b mode).isOk = true) :
  ∃ sheet : Sheet Slot, sheet.root.depth ≤ depthLimit ∧ t.row = sheet.lexemes Slot.lexeme
  := by
  obtain ⟨ready, value, accepted⟩ := exists_ready_of_isOk rendered
  have twice := fun front lexeme back (split : t.row = front ++ lexeme :: back) =>
    inPlace.twice whole ready.bound split (closed_row accepted lexeme (by simp [split]))
  have literals (l : Literal) : ∃ s : Slot, s.lexeme.chars = l.lexeme.chars := ⟨.literal l, rfl⟩
  obtain ⟨sheet, shallow, text⟩ := exists_sheet_of_exchange literals twice accepted
  refine ⟨sheet, shallow, ?_⟩
  rw [row, ← flatMap_chars_lexemes t.source.toList, ← text,
    Sheet.lexemes_chars Slot.proper_lexeme]

/-- Whole values for all names are rendered in a template that is laid out as an outline. -/
theorem isOk_render_of_sheet {mode : RenderMode} {sheet : Sheet Slot}
    (shallow : sheet.root.depth ≤ depthLimit) (shape : t.row = sheet.lexemes Slot.lexeme)
    (whole : c.Whole) (ready : t.Ready c mode) :
  (t.render c mode).isOk = true
  := by
  have same : (sheet.template t.name).row = t.row := (sheet.row_template t.name).trans shape.symm
  have covered : ∀ name ∈ sheet.names, c.HasWhole name := by
    intro name mem
    rw [← sheet.usedNames_template t.name, usedNames_eq, same, ← usedNames_eq] at mem
    obtain ⟨v, bound⟩ := Option.isSome_iff_exists.1 (ready.bound name mem)
    exact ⟨v, bound, whole name v bound⟩
  have read := sheet.toValue_filledChars t.name shallow covered
  rw [filledChars, same] at read
  exact isOk_render_of_ready ready read

/-- **What rendering depends on.**  Of two bindings that are alike, both are rendered or neither is.
If a template is rendered with every value in its place, it is laid out as an outline whose leaves
are literals and the bare placeholders, and it is rendered with all whole values for the same
names. -/
theorem isOk_render_independent (t : Template) (mode : RenderMode) :
  (∀ b c, t.Alike b c → (t.render b mode).isOk = (t.render c mode).isOk)
    ∧ ∀ b, b.Whole → t.InPlace b → (t.render b mode).isOk = true →
        (∃ sheet : Sheet Slot, t.row = sheet.lexemes Slot.lexeme)
          ∧ ∀ c, c.Whole → b.names = c.names → (t.render c mode).isOk = true
  := by
  refine ⟨?_, ?_⟩
  · intro b c alike
    rw [Bool.eq_iff_iff]
    exact ⟨alike.isOk_render, alike.symm.isOk_render⟩
  · intro b whole inPlace rendered
    obtain ⟨sheet, shallow, shape⟩ := inPlace.exists_sheet whole rendered
    refine ⟨⟨sheet, shape⟩, ?_⟩
    intro c wholeToo names
    apply isOk_render_of_sheet shallow shape wholeToo
    exact (exists_ready_of_isOk rendered).1.congr names

/-- An array with a bare placeholder, and one behind a sign. -/
def signed : Template := ofText "signed" "[SIZE,-SHIFT]"

/-- Values for the two placeholders. -/
def signedValues (size : Scalar) : Bindings :=
  (Bindings.empty.insert "SIZE" size).insert "SHIFT" (.number (.integer 5 (by decide)))

theorem whole_signedValues {size : Scalar} (whole : size.Whole) :
  (signedValues size).Whole
  := by
  apply (Bindings.whole_empty.insert "SIZE" whole).insert "SHIFT"
  trivial

theorem alike_signed {n : Number} (whole : (Scalar.number n).Whole) (s : String) :
  signed.Alike (signedValues (.number n)) (signedValues (.text s))
  := by
  have occurrences : signed.occurrences
      = [⟨"SIZE", .bare, 1, 5, 1, 2⟩, ⟨"SHIFT", .bare, 7, 12, 1, 8⟩] := by
    decide +kernel
  refine ⟨whole_signedValues whole, whole_signedValues trivial, rfl, ?_⟩
  rw [occurrences]
  simp only [List.forall_mem_cons]
  refine ⟨?_, ?_, List.forall_mem_nil _⟩
  · rintro - v ⟨⟩ w ⟨⟩
    exact .stay rfl rfl
  · rintro - v ⟨⟩ w ⟨⟩
    exact .same _

theorem isOk_render_signed :
  (signed.render (signedValues (.number (.integer 7 (by decide)))) ⟨true, false⟩).isOk
      = (signed.render (signedValues (.text "a")) ⟨true, false⟩).isOk
    ∧ (signed.render (signedValues (.text "a")) ⟨true, false⟩).isOk = true
  := by
  have whole : (Scalar.number (.integer 7 (by decide))).Whole := trivial
  have same := (isOk_render_independent signed ⟨true, false⟩).1 _ _ (alike_signed whole "a")
  exact ⟨same, by decide +kernel⟩

/-- A value for a single placeholder. -/
def keyValue (v : Scalar) : Bindings := Bindings.empty.insert "KEY" v

/-- A text that is the key of an object cannot be exchanged for a truth value, and neither can a
number behind a sign. -/
theorem isOk_render_dependent :
  (∀ v w, (keyValue v).names = (keyValue w).names)
    ∧ (∀ v, v.Whole → (keyValue v).Whole)
    ∧ ((ofText "keyed" "\x7bKEY:1\x7d").render (keyValue (.text "a")) ⟨true, false⟩).isOk = true
    ∧ ((ofText "keyed" "\x7bKEY:1\x7d").render (keyValue (.boolean true)) ⟨true, false⟩).isOk
      = false
    ∧ ((ofText "signed" "[-KEY]").render (keyValue (.number (.integer 5 (by decide))))
        ⟨true, false⟩).isOk = true
    ∧ ((ofText "signed" "[-KEY]").render (keyValue (.boolean true)) ⟨true, false⟩).isOk = false
  := by
  refine ⟨fun _ _ => rfl, fun v whole => Bindings.whole_empty.insert "KEY" whole, ?_, ?_, ?_, ?_⟩
  all_goals decide +kernel

end Template

end ConfigTemplate
