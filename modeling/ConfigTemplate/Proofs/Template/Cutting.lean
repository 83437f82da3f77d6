import ConfigTemplate.Proofs.Template.Outcome
import ConfigTemplate.Proofs.Template.Structural

/-!
# Cutting a template at its placeholders

A template is a row of placeholders with gaps around them.  Rendering exchanges every placeholder
for the value of its name and leaves the gaps alone: `exists_cut_of_render` states this for the
characters, with every placeholder at the place where the scan of the template found it.
-/

namespace ConfigTemplate

/-- The characters of a placeholder, its quotes included. -/
def Occurrence.token (o : Occurrence) : List Char :=
  match o.form with
  | .bare => o.name.toList
  | .quoted => '"' :: o.name.toList ++ ['"']

/-- A placeholder with the value of its name, and what stands between it and the next one. -/
structure Filling where
  occurrence : Occurrence
  value : Scalar
  gap : List Char

namespace Filling

/-- The characters from the placeholder on to the next one. -/
def before (f : Filling) : List Char := f.occurrence.token ++ f.gap

/-- The same characters with the value in the place of the placeholder. -/
def after (f : Filling) : List Char := f.value.writtenAs f.occurrence.form ++ f.gap

/-- The placeholders have the spans of their characters, and those of the first one start at an
offset. -/
def Placed : Nat → List Filling → Prop
  | _, [] => True
  | offset, f :: rest =>
    f.occurrence.start = offset
      ∧ f.occurrence.stop = offset + byteLength f.occurrence.token
      ∧ Placed (f.occurrence.stop + byteLength f.gap) rest

end Filling

/-- A text, cut at the occurrences of placeholders in it.  The offset counts the bytes in front of
the text. -/
structure Bindings.Cut (b : Bindings) (offset : Nat) (text : List Char)
    (occurrences : List Occurrence) where
  /-- What stands in front of the first placeholder. -/
  lead : List Char
  fillings : List Filling
  whole : text = lead ++ fillings.flatMap Filling.before
  every : fillings.map Filling.occurrence = occurrences
  placed : Filling.Placed (offset + byteLength lead) fillings
  bound : ∀ f ∈ fillings, b.get? f.occurrence.name = some f.value

namespace Bindings.Cut

variable {b : Bindings} {offset : Nat} {text : List Char} {occurrences : List Occurrence}

/-- The text with every value in its place. -/
def filled (cut : b.Cut offset text occurrences) : List Char :=
  cut.lead ++ cut.fillings.flatMap Filling.after

/-- The empty text. -/
def empty (b : Bindings) (offset : Nat) : b.Cut offset [] [] where
  lead := []
  fillings := []
  whole := rfl
  every := rfl
  placed := trivial
  bound := by simp

/-- More text without placeholders in front. -/
def pass {next : Nat} (front : List Char) (place : next = offset + byteLength front)
    (cut : b.Cut next text occurrences) : b.Cut offset (front ++ text) occurrences where
  lead := front ++ cut.lead
  fillings := cut.fillings
  whole := by rw [List.append_assoc, ← cut.whole]
  every := cut.every
  placed := by
    rw [byteLength_append, ← Nat.add_assoc, ← place]
    exact cut.placed
  bound := cut.bound

/-- One more placeholder in front, with its value. -/
def fill {o : Occurrence} {v : Scalar} {token : List Char} (bound : b.get? o.name = some v)
    (isToken : token = o.token) (stop : o.stop = o.start + byteLength token)
    (cut : b.Cut o.stop text occurrences) : b.Cut o.start (token ++ text) (o :: occurrences) where
  lead := []
  fillings := ⟨o, v, cut.lead⟩ :: cut.fillings
  whole := by simp [Filling.before, isToken, ← cut.whole]
  every := by simp [cut.every]
  placed := ⟨rfl, isToken ▸ stop, cut.placed⟩
  bound := List.forall_mem_cons.2 ⟨bound, cut.bound⟩

theorem filled_pass {next : Nat} (front : List Char) (place : next = offset + byteLength front)
    (cut : b.Cut next text occurrences) :
  (cut.pass front place).filled = front ++ cut.filled
  := List.append_assoc ..

theorem filled_fill {o : Occurrence} {v : Scalar} {token : List Char}
    (bound : b.get? o.name = some v) (isToken : token = o.token)
    (stop : o.stop = o.start + byteLength token) (cut : b.Cut o.stop text occurrences) :
  (cut.fill bound isToken stop).filled = v.writtenAs o.form ++ cut.filled
  := by simp [filled, fill, Filling.after]

end Bindings.Cut

/-- A lexeme that is an identifier consists of the characters of its occurrence. -/
theorem Lexeme.chars_of_identifier? {lexeme : Lexeme} {form : Form} {name : List Char}
    (found : lexeme.identifier? = some (form, name)) (start stop line column : Nat) :
  lexeme.chars = Occurrence.token ⟨String.ofList name, form, start, stop, line, column⟩
  := by
  cases lexeme with
  | quoted content =>
    simp only [identifier?, Option.ite_none_right_eq_some, Option.some.injEq, Prod.mk.injEq]
      at found
    obtain ⟨-, rfl, rfl⟩ := found
    simp [Occurrence.token, chars]
  | word cs =>
    simp only [identifier?, Option.ite_none_left_eq_some, Option.some.injEq, Prod.mk.injEq]
      at found
    obtain ⟨-, rfl, rfl⟩ := found
    simp [Occurrence.token, chars]
  | unclosed | number | other => simp [identifier?] at found

/-- A lexeme that is a placeholder consists of the characters of its occurrence. -/
theorem Lexeme.chars_of_placeholder? {lexeme : Lexeme} {form : Form} {name : List Char}
    (found : lexeme.placeholder? = some (form, name)) (start stop line column : Nat) :
  lexeme.chars = Occurrence.token ⟨String.ofList name, form, start, stop, line, column⟩
  := by
  cases isOne : lexeme.identifier? with
  | none => simp [placeholder?_of_none isOne] at found
  | some shape =>
    rw [placeholder?_of_identifier? isOne] at found
    obtain ⟨-, same⟩ := Option.ite_none_right_eq_some.1 found
    exact chars_of_identifier? (isOne.trans same) start stop line column

/-- The text of lexemes is cut at the placeholders among them, and filled with what is written at
the lexemes. -/
theorem Bindings.exists_cut_identifiers (b : Bindings) {row : List Lexeme} (covered : b.Covers row)
    (m : Mark) :
  ∃ cut : b.Cut m.offset (row.flatMap Lexeme.chars)
      ((identifiers m row).filter Occurrence.isPlaceholder),
    cut.filled = row.flatMap b.written
  := by
  induction row generalizing m with
  | nil => exact ⟨Cut.empty b m.offset, rfl⟩
  | cons lexeme row ih =>
    obtain ⟨cut, filled⟩ := ih (fun l mem => covered l (List.mem_cons_of_mem lexeme mem))
      (m.afterAll lexeme.chars)
    have next := m.offset_afterAll lexeme.chars
    rw [filter_identifiers_cons, List.flatMap_cons, List.flatMap_cons, ← filled]
    cases found : lexeme.placeholder? with
    | none =>
      have same : b.written lexeme = lexeme.chars := by rw [written, found]
      rw [same]
      exact ⟨cut.pass lexeme.chars next, cut.filled_pass lexeme.chars next⟩
    | some shape =>
      obtain ⟨form, name⟩ := shape
      obtain ⟨v, bound⟩ : ∃ v, b.get? (String.ofList name) = some v :=
        Option.isSome_iff_exists.1 (covered lexeme List.mem_cons_self form name found)
      have written : b.written lexeme = v.writtenAs form := by rw [written, found]; simp [bound]
      have isToken := Lexeme.chars_of_placeholder? found m.offset
        (m.afterAll lexeme.chars).offset m.line m.column
      rw [written]
      exact ⟨cut.fill bound isToken next, cut.filled_fill bound isToken next⟩

/-- **Rendering keeps what stands between placeholders.**  A template that is rendered is cut at the
placeholders that the scan finds, each of them has a value, and the rendered text is the template
with these values in their places.  The value of the rendering is the value of this text. -/
theorem Template.exists_cut_of_render {t : Template} {b : Bindings} {strict : Bool} {r : Rendered}
    (rendered : t.render b ⟨strict, false⟩ = .ok r) :
  ∃ cut : b.Cut 0 t.source.toList t.occurrences,
    r.text.toList = cut.filled ∧ Json.parse r.text = .ok r.value
  := by
  have outcome := outcome_render t b ⟨strict, false⟩
  rw [rendered] at outcome
  cases outcome with
  | rendered value ready accepted =>
    have found := b.exists_cut_identifiers (covers_of_bound ready.bound) .start
    rw [flatMap_chars_lexemes] at found
    obtain ⟨cut, filled⟩ := found
    have text : (String.ofList (t.filledChars b)).toList = cut.filled := by
      rw [String.toList_ofList, filledChars, filled]
    exact ⟨cut, text, parse_of_render rfl rendered⟩

open Json in
/-- Two placeholders that are bound to the names of each other are exchanged: no value is taken for
a placeholder again. -/
theorem Template.exists_cut_greeting :
  (ofText "greeting" "\x7b\"WHO\":HOW\x7d").render (greetingValues "HOW" "WHO") ⟨true, false⟩
      = .ok ⟨"\x7b\"HOW\":\"WHO\"\x7d", .object [("HOW", .string "WHO")]⟩
    ∧ ∃ cut : (greetingValues "HOW" "WHO").Cut 0 "\x7b\"WHO\":HOW\x7d".toList
        (ofText "greeting" "\x7b\"WHO\":HOW\x7d").occurrences,
      "\x7b\"HOW\":\"WHO\"\x7d".toList = cut.filled
        ∧ parse "\x7b\"HOW\":\"WHO\"\x7d" = .ok (.object [("HOW", .string "WHO")])
  := by
  have source : ofText "greeting" "\x7b\"WHO\":HOW\x7d" = greeting.template "greeting" := by decide
  have rendered := render_greeting "HOW" "WHO" ⟨true, false⟩
  rw [← source] at rendered
  exact ⟨rendered, exists_cut_of_render rendered⟩

end ConfigTemplate
