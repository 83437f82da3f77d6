import ConfigTemplate.Proofs.Json.ReadingSound
import ConfigTemplate.Proofs.Number.Text
import ConfigTemplate.Proofs.Placeholder.Strings
import ConfigTemplate.Proofs.Template.Structural

/-!
# Scanning what was rendered

A rendered text may be taken for a template again.  As it is JSON it has no words but those of JSON,
and its strings are those of the template, with values in the places of placeholders.  So the
placeholders that it has are the values that are placeholder names, and if there are none it is
rendered to itself.
-/

namespace ConfigTemplate

open Json

/-! ### Values that are placeholder names -/

theorem continuesWord_control :
  ∀ n : Fin 32, Lexeme.continuesWord (Char.ofNat n) = false
  := by
  decide

/-- A character of a word is not escaped. -/
theorem escapedChar_of_continuesWord {c : Char} (h : Lexeme.continuesWord c = true) :
  escapedChar c = [c]
  := by
  unfold escapedChar
  split_ifs with quote backslash backspace feed newline carriage tab control
  · rw [eq_of_beq quote] at h; contradiction
  · rw [eq_of_beq backslash] at h; contradiction
  · rw [eq_of_beq backspace] at h; contradiction
  · rw [eq_of_beq feed] at h; contradiction
  · rw [eq_of_beq newline] at h; contradiction
  · rw [eq_of_beq carriage] at h; contradiction
  · rw [eq_of_beq tab] at h; contradiction
  · have := continuesWord_control ⟨c.toNat, control⟩
    rw [Char.ofNat_toNat, h] at this
    contradiction
  · rfl

/-- An escape is no character of a word. -/
theorem escapedChar_eq_of_forall {c : Char}
    (h : ∀ d ∈ escapedChar c, Lexeme.continuesWord d = true) :
  escapedChar c = [c]
  := by
  obtain ⟨piece, spelled, same⟩ := exists_piece_of_escapedChar c
  rcases piece.plain_or_escape with ⟨d, allowed, rfl⟩ | ⟨tail, escape⟩
  · rw [← spelled, ← same]
    rfl
  · have := h '\\' (by rw [← spelled, escape]; apply List.mem_cons_self)
    contradiction

theorem flatMap_escapedChar {cs : List Char} (h : ∀ c ∈ cs, escapedChar c = [c]) :
  cs.flatMap escapedChar = cs
  := by
  induction cs with
  | nil => rfl
  | cons c rest ih =>
    rw [List.forall_mem_cons] at h
    rw [List.flatMap_cons, h.1, ih h.2]
    rfl

/-- Escaping leaves a placeholder name alone. -/
theorem flatMap_escapedChar_of_isPlaceholderName {cs : List Char}
    (h : isPlaceholderName cs = true) :
  cs.flatMap escapedChar = cs
  := flatMap_escapedChar fun c mem =>
    escapedChar_of_continuesWord (PlaceholderName.continuesWord_of_completes h c mem)

/-- Escaping makes no placeholder name. -/
theorem isPlaceholderName_escaped (cs : List Char) :
  isPlaceholderName (cs.flatMap escapedChar) = isPlaceholderName cs
  := by
  cases isName : isPlaceholderName cs with
  | true => rw [flatMap_escapedChar_of_isPlaceholderName isName, isName]
  | false =>
    by_contra escaped
    rw [Bool.not_eq_false] at escaped
    have same : cs.flatMap escapedChar = cs := by
      apply flatMap_escapedChar
      intro c mem
      apply escapedChar_eq_of_forall
      intro d memD
      apply PlaceholderName.continuesWord_of_completes escaped
      exact List.mem_flatMap.2 ⟨c, mem, memD⟩
    rw [same, isName] at escaped
    contradiction

/-- The text of a number is no placeholder name. -/
theorem isPlaceholderName_chars (n : Number) :
  isPlaceholderName n.chars = false
  := by
  by_contra isName
  obtain ⟨c, rest, shape, upper⟩ := exists_cons_of_isPlaceholderName (by simpa using isName)
  have isText := n.isTextChar_chars c (by simp [shape])
  simp only [Number.isTextChar, Bool.or_eq_true, beq_iff_eq] at isText
  rcases isText with (((digit | rfl) | rfl) | rfl) | rfl
  · unfold Char.isUpper at upper
    unfold Char.isDigit at digit
    simp only [Bool.and_eq_true, decide_eq_true_eq] at upper digit
    exact absurd (UInt32.le_trans upper.1 digit.2) (by decide)
  all_goals contradiction

theorem isContent_escaped (cs : List Char) :
  Lexeme.isContent (cs.flatMap escapedChar) = true
  := by
  obtain ⟨pieces, spelled, -⟩ := exists_pieces_of_escapedChars cs
  rw [← spelled]
  apply isContent_pieces

/-! ### What is written at a lexeme -/

namespace Bindings

/-- The value of a name, if it is a text that is a placeholder name. -/
def textName? (b : Bindings) (name : String) : Option String :=
  match b.get? name with
  | some (.text s) => if isPlaceholderName s.toList then some s else none
  | _ => none

/-- The string that is written at a lexeme. -/
def string? (b : Bindings) (lexeme : Lexeme) : Option (List Char) :=
  match lexeme.placeholder? with
  | none => lexeme.string?
  | some (form, name) =>
    match b.get? (String.ofList name), form with
    | none, _ => lexeme.string?
    | some (.text s), _ => some (s.toList.flatMap escapedChar)
    | some _, .bare => none
    | some v, .quoted => some (v.display.toList.flatMap escapedChar)

theorem passedAs_written (b : Bindings) {lexeme : Lexeme} (closed : lexeme.Closed) :
  PassedAs (b.string? lexeme) (b.written lexeme)
  := by
  have string (text : String) :
      PassedAs (some (text.toList.flatMap escapedChar)) (stringChars text.toList) :=
    passedAs_quoted (isContent_escaped text.toList)
  have word (truth : Bool) : '"' ∉ (Scalar.boolean truth).literalChars := by
    cases truth <;> decide
  unfold string? written
  cases lexeme.placeholder? with
  | none => apply closed.passedAs
  | some shape =>
    obtain ⟨form, name⟩ := shape
    dsimp only
    cases b.get? (String.ofList name) with
    | none => apply closed.passedAs
    | some v =>
      cases v with
      | text s => cases form <;> apply string
      | boolean truth =>
        cases form with
        | bare => exact passedAs_none (word truth)
        | quoted => apply string
      | number n =>
        cases form with
        | bare => exact passedAs_none n.quote_notMem_chars
        | quoted => apply string

/-- The string that is written at a lexeme is a placeholder name exactly if the value is. -/
theorem string?_bind (b : Bindings) {lexeme : Lexeme}
    (covered : ∀ form name, lexeme.placeholder? = some (form, name) →
      b.contains (String.ofList name) = true) :
  (b.string? lexeme).bind (fun content =>
      if isPlaceholderName content then some (String.ofList content) else none)
    = lexeme.placeholder?.bind fun (_, name) => b.textName? (String.ofList name)
  := by
  unfold string?
  cases found : lexeme.placeholder? with
  | none =>
    cases lexeme with
    | quoted content =>
      have noName : isPlaceholderName content = false := by
        by_contra isName
        simp [Lexeme.placeholder?, isName] at found
      simp [Lexeme.string?, noName]
    | unclosed | number | word | other => rfl
  | some shape =>
    obtain ⟨form, name⟩ := shape
    obtain ⟨v, bound⟩ := Option.isSome_iff_exists.1 (covered form name found)
    simp only [show b.get? (String.ofList name) = some v from bound, textName?, Option.bind_some]
    cases v with
    | text s =>
      simp only [Option.bind_some, isPlaceholderName_escaped]
      split
      · next isName =>
        rw [flatMap_escapedChar_of_isPlaceholderName isName, String.ofList_toList]
      · rfl
    | boolean truth =>
      cases form with
      | bare => rfl
      | quoted => cases truth <;> rfl
    | number n =>
      cases form with
      | bare => rfl
      | quoted =>
        simp [isPlaceholderName_escaped, Scalar.display, Number.text, isPlaceholderName_chars]

theorem written_empty :
  empty.written = Lexeme.chars
  := by
  funext lexeme
  unfold written
  split
  · rfl
  · rfl

/-- Each occurrence with the number of bytes in front of its value, where `out` bytes stand in
front of what the byte `cursor` becomes. -/
def landings (b : Bindings) (cursor out : Nat) : List Occurrence → List (Occurrence × Nat)
  | [] => []
  | o :: later =>
    match b.get? o.name with
    | none => []
    | some v =>
      let place := out + (o.start - cursor)
      (o, place) :: b.landings o.stop (place + byteLength (v.writtenAs o.form)) later

theorem mem_of_mem_landings (b : Bindings) {cursor out : Nat} {occurrences : List Occurrence} :
  ∀ landed ∈ b.landings cursor out occurrences, landed.1 ∈ occurrences
  := by
  induction occurrences generalizing cursor out with
  | nil => nofun
  | cons o later ih =>
    rw [landings]
    cases b.get? o.name with
    | none => nofun
    | some v =>
      rw [List.forall_mem_cons]
      exact ⟨List.mem_cons_self, fun landed mem => List.mem_cons_of_mem o (ih landed mem)⟩

/-- The values land where the lexemes in front of them leave off. -/
theorem landings_identifiers (b : Bindings) {row : List Lexeme} (covered : b.Covers row) {m : Mark}
    {cursor : Nat} (place : cursor ≤ m.offset) (out : Nat) :
  (b.landings cursor out ((identifiers m row).filter Occurrence.isPlaceholder)).map
      (fun (o, place) => (o.shape, place))
    = layOut b.written Lexeme.placeholder? (out + (m.offset - cursor)) row
  := by
  induction row generalizing m cursor out with
  | nil => rfl
  | cons lexeme row ih =>
    have later : b.Covers row := fun l mem => covered l (List.mem_cons_of_mem lexeme mem)
    have next := m.offset_afterAll lexeme.chars
    rw [filter_identifiers_cons, layOut]
    cases found : lexeme.placeholder? with
    | none =>
      have same : b.written lexeme = lexeme.chars := by rw [written, found]
      rw [same]
      have behind : cursor ≤ (m.afterAll lexeme.chars).offset := by omega
      simp only [ih later behind, Option.map_none, Option.toList_none, List.nil_append]
      congr 1
      omega
    | some shape =>
      obtain ⟨form, name⟩ := shape
      obtain ⟨v, bound⟩ : ∃ v, b.get? (String.ofList name) = some v :=
        Option.isSome_iff_exists.1 (covered lexeme List.mem_cons_self form name found)
      have written : b.written lexeme = v.writtenAs form := by rw [written, found]; simp [bound]
      have behind := ih later (le_refl (m.afterAll lexeme.chars).offset)
      simpa [landings, bound, written, Occurrence.shape] using behind _

end Bindings

/-! ### The rendered text -/

/-- The placeholders of a text with their places. -/
theorem map_start_identifiers (m : Mark) (row : List Lexeme) :
  ((identifiers m row).filter Occurrence.isPlaceholder).map (fun o => (o.shape, o.start))
    = layOut Lexeme.chars Lexeme.placeholder? m.offset row
  := by
  induction row generalizing m with
  | nil => rfl
  | cons lexeme row ih =>
    rw [filter_identifiers_cons, layOut, ← Mark.offset_afterAll, ← ih]
    cases lexeme.placeholder? with
    | none => rfl
    | some shape => simp [Occurrence.shape]

/-- The lexemes of a JSON text are strings, words of JSON, numbers and single characters. -/
def Lexeme.Plain : Lexeme → Prop
  | .quoted _ | .number _ | .other _ => True
  | .word cs => isKeyword cs = true
  | .unclosed _ => False

theorem Literal.plain_lexeme (l : Literal) :
  l.lexeme.Plain
  := by
  cases l with
  | null => rfl
  | boolean b => cases b <;> rfl
  | number n => trivial
  | string pieces => trivial

theorem plain_of_toValue {cs : List Char} {value : Value}
    (accepted : (Document.ofChars cs).toValue = .ok value) :
  ∀ lexeme ∈ lexemes cs, lexeme.Plain
  := by
  obtain ⟨t, rfl, -, -⟩ := exists_sheet_of_toValue accepted
  rw [t.lexemes_chars Literal.proper_lexeme]
  exact t.forall_lexemes (P := Lexeme.Plain) (fun _ => trivial) (fun _ => trivial)
    Literal.plain_lexeme

/-- A JSON text has no string that is not closed. -/
theorem closed_of_plain {cs : List Char} (plain : ∀ lexeme ∈ lexemes cs, lexeme.Plain) :
  ∀ lexeme ∈ lexemes cs, lexeme.Closed
  := by
  rcases closed_or_unfinished cs with closed | ⟨front, rest, shape, -, -⟩
  · exact closed
  · have := plain (.unclosed rest) (by simp [shape])
    contradiction

namespace Template

variable {t : Template} {b : Bindings} {value : Value}

/-- A template that is rendered has no string that is not closed. -/
theorem closed_row (accepted : (Document.ofChars (t.filledChars b)).toValue = .ok value) :
  ∀ lexeme ∈ t.row, lexeme.Closed
  := by
  have closed := closed_of_plain (plain_of_toValue accepted)
  have found := stringsFrom_eq_some (fun lexeme mem => (closed lexeme mem).passedAs) 0
  rw [flatMap_chars_lexemes] at found
  rcases closed_or_unfinished t.source.toList with all | ⟨front, rest, shape, unclosed, all⟩
  · exact all
  · have split : t.filledChars b = front.flatMap b.written ++ '"' :: rest := by
      rw [filledChars, row, shape, List.flatMap_append]
      simp [Bindings.written, Lexeme.placeholder?, Lexeme.chars]
    have written := stringsFrom_flatMap
      (fun lexeme mem => b.passedAs_written (all lexeme mem)) 0 ('"' :: rest)
    rw [← split, found, stringsFrom_unclosed unclosed] at written
    contradiction

/-- The strings of a rendered text are those of the template, with the values in their places. -/
theorem layOut_filledChars (accepted : (Document.ofChars (t.filledChars b)).toValue = .ok value) :
  layOut Lexeme.chars Lexeme.string? 0 (lexemes (t.filledChars b))
    = layOut b.written b.string? 0 t.row
  := by
  have closed := closed_of_plain (plain_of_toValue accepted)
  have found := stringsFrom_eq_some (fun lexeme mem => (closed lexeme mem).passedAs) 0
  have written := stringsFrom_eq_some
    (fun lexeme mem => b.passedAs_written (closed_row accepted lexeme mem)) 0
  rw [flatMap_chars_lexemes] at found
  exact Option.some.inj (found.symm.trans written)

/-- The template that a rendered text is. -/
abbrev again (name : String) (t : Template) (b : Bindings) : Template :=
  ofText name (String.ofList (t.filledChars b))

theorem row_again (name : String) :
  (again name t b).row = lexemes (t.filledChars b)
  := congrArg lexemes String.toList_ofList

/-- A rendered text has no stray identifiers. -/
theorem strayNames_again (accepted : (Document.ofChars (t.filledChars b)).toValue = .ok value)
    (name : String) :
  (again name t b).strayNames = []
  := by
  have none : straysOf (again name t b).source.toList = [] := by
    apply filter_strays_eq_nil
    intro lexeme mem
    have plain := plain_of_toValue accepted lexeme (by rwa [← row_again name])
    cases lexeme with
    | word cs =>
      simp [Lexeme.identifier?, Lexeme.placeholder?, isPlaceholderName_of_isKeyword plain,
        show isKeyword cs = true from plain]
    | quoted | unclosed | number | other => rfl
  rw [strayNames, none, List.map_nil]

/-- A placeholder of a rendered text is quoted. -/
theorem form_again (accepted : (Document.ofChars (t.filledChars b)).toValue = .ok value)
    (name : String) :
  ∀ o ∈ (again name t b).occurrences, o.form = .quoted
  := by
  intro o mem
  have shape : o.shape ∈ (again name t b).row.filterMap Lexeme.placeholder? := by
    rw [← map_shape_occurrences]
    exact List.mem_map_of_mem mem
  rw [row_again] at shape
  obtain ⟨lexeme, inRow, found⟩ := List.mem_filterMap.1 shape
  have plain := plain_of_toValue accepted lexeme inRow
  cases lexeme with
  | quoted content =>
    simp only [Lexeme.placeholder?, Option.ite_none_right_eq_some] at found
    exact (congrArg Prod.fst (Option.some.inj found.2)).symm
  | word cs => simp [Lexeme.placeholder?, isPlaceholderName_of_isKeyword plain] at found
  | unclosed | number | other => simp [Lexeme.placeholder?] at found

/-- The placeholders of a rendered text are the values that are placeholder names, where they
landed. -/
theorem map_start_again (covered : b.Covers t.row)
    (accepted : (Document.ofChars (t.filledChars b)).toValue = .ok value) (name : String) :
  (again name t b).occurrences.map (fun o => (o.name, o.start))
    = (b.landings 0 0 t.occurrences).filterMap fun (o, place) =>
        (b.textName? o.name).map (·, place)
  := by
  let asName (content : List Char) : Option String :=
    if isPlaceholderName content then some (String.ofList content) else none
  let nameOf (shape : Form × List Char) : Option String := some (String.ofList shape.2)
  let textOf (shape : Form × List Char) : Option String := b.textName? (String.ofList shape.2)
  have plain := plain_of_toValue accepted
  calc (again name t b).occurrences.map (fun o => (o.name, o.start))
    _ = ((again name t b).occurrences.map fun o => (o.shape, o.start)).filterMap
          fun (shape, place) => (nameOf shape).map (·, place) := by
      simp [nameOf, Occurrence.shape, List.filterMap_map, Function.comp_def]
    _ = layOut Lexeme.chars (fun lexeme => lexeme.placeholder?.bind nameOf) 0
          (lexemes (t.filledChars b)) := by
      rw [← filterMap_layOut, ← row_again name]
      exact congrArg _ (map_start_identifiers .start _)
    _ = layOut Lexeme.chars (fun lexeme => lexeme.string?.bind asName) 0
          (lexemes (t.filledChars b)) := by
      apply layOut_congr
      intro lexeme mem
      have isPlain := plain lexeme mem
      cases lexeme with
      | quoted content =>
        simp only [Lexeme.placeholder?, Lexeme.string?, Option.bind_some, asName]
        split <;> rfl
      | word cs =>
        simp [Lexeme.placeholder?, Lexeme.string?, isPlaceholderName_of_isKeyword isPlain]
      | unclosed | number | other => rfl
    _ = layOut b.written (fun lexeme => (b.string? lexeme).bind asName) 0 t.row := by
      rw [← filterMap_layOut, layOut_filledChars accepted, filterMap_layOut]
    _ = layOut b.written (fun lexeme => lexeme.placeholder?.bind textOf) 0 t.row := by
      apply layOut_congr
      intro lexeme mem
      exact b.string?_bind (covered lexeme mem)
    _ = ((b.landings 0 0 t.occurrences).map fun (o, place) => (o.shape, place)).filterMap
          fun (shape, place) => (textOf shape).map (·, place) := by
      rw [← filterMap_layOut]
      exact congrArg _ (b.landings_identifiers covered (m := .start) le_rfl 0).symm
    _ = _ := by
      simp [textOf, Occurrence.shape, List.filterMap_map, Function.comp_def]

/-- A JSON text is, as a template without placeholders, rendered to itself. -/
theorem render_again (accepted : (Document.ofChars (t.filledChars b)).toValue = .ok value)
    {name : String} (unused : (again name t b).occurrences = []) :
  (again name t b).render .empty ⟨true, false⟩ = .ok ⟨String.ofList (t.filledChars b), value⟩
  := by
  have ready : (again name t b).Ready .empty ⟨true, false⟩ := by
    refine ⟨strayNames_again accepted name, ?_, ?_⟩
    · simp [usedNames, unused]
    · intro _ other bound
      contradiction
  have same : (again name t b).filledChars .empty = t.filledChars b := by
    rw [filledChars, Bindings.written_empty, row_again, flatMap_chars_lexemes]
  rw [render_of_ready ready, same, accepted]
  rfl

/-- **Rendered texts are templates of values.**  A rendered text has no bare placeholders and no
stray identifiers.  Its quoted placeholders are, one for one and in their order, the values that are
texts and placeholder names, at the places where they were written.  If there are none, it is
rendered to itself. -/
theorem rescan_rendered {t : Template} {b : Bindings} {strict : Bool} {r : Rendered}
    (rendered : t.render b ⟨strict, false⟩ = .ok r) (name : String) :
  (ofText name r.text).strayNames = []
    ∧ (∀ o ∈ (ofText name r.text).occurrences, o.form = .quoted)
    ∧ (ofText name r.text).occurrences.map (fun o => (o.name, o.start))
      = (b.landings 0 0 t.occurrences).filterMap (fun (o, place) =>
          (b.textName? o.name).map (·, place))
    ∧ ((∀ o ∈ t.occurrences, b.textName? o.name = none) →
        (ofText name r.text).occurrences = []
          ∧ (ofText name r.text).render .empty ⟨true, false⟩ = .ok r)
  := by
  have outcome := outcome_render t b ⟨strict, false⟩
  rw [rendered] at outcome
  cases outcome with
  | rendered value ready accepted =>
    have places := map_start_again (covers_of_bound ready.bound) accepted name
    refine ⟨strayNames_again accepted name, form_again accepted name, places, ?_⟩
    intro noNames
    have unused : (again name t b).occurrences = [] := by
      have none : (b.landings 0 0 t.occurrences).filterMap (fun (o, place) =>
          (b.textName? o.name).map (·, place)) = [] := by
        apply List.filterMap_eq_nil_iff.2
        intro landed mem
        simp [noNames _ (b.mem_of_mem_landings landed mem)]
      rw [none] at places
      exact List.map_eq_nil_iff.1 places
    exact ⟨unused, render_again accepted unused⟩

theorem rescan_greeting :
  (ofText "greeting" "\x7b\"WHO\":HOW\x7d").render (greetingValues "HOW" "hi") ⟨true, false⟩
      = .ok ⟨"\x7b\"HOW\":\"hi\"\x7d", .object [("HOW", .string "hi")]⟩
    ∧ (ofText "again" "\x7b\"HOW\":\"hi\"\x7d").occurrences.map (fun o => (o.name, o.start))
      = [("HOW", 1)]
  := by
  have source : ofText "greeting" "\x7b\"WHO\":HOW\x7d" = greeting.template "greeting" := by decide
  have filled : (greeting.template "greeting").filledChars (greetingValues "HOW" "hi")
      = "\x7b\"HOW\":\"hi\"\x7d".toList := by
    rw [filledChars, greeting.row_template]
    decide
  have occurrences : (greeting.template "greeting").occurrences
      = [⟨"WHO", .quoted, 1, 6, 1, 2⟩, ⟨"HOW", .bare, 7, 10, 1, 8⟩] := by
    rw [Template.occurrences, placeholdersOf, identifiersOf,
      show lexemes _ = _ from greeting.row_template "greeting"]
    decide
  have rendered : (greeting.template "greeting").render (greetingValues "HOW" "hi") ⟨true, false⟩
      = .ok ⟨"\x7b\"HOW\":\"hi\"\x7d", .object [("HOW", .string "hi")]⟩ := by
    have fitting := fitting_greeting "HOW" "hi" ⟨true, false⟩
    rw [render_of_ready (fitting.ready "greeting"),
      greeting.toValue_filledChars "greeting" (by decide) fitting.covered, filled]
    rfl
  rw [source]
  refine ⟨rendered, ?_⟩
  rw [(rescan_rendered rendered "again").2.2.1, occurrences]
  decide

end Template

end ConfigTemplate
