import ConfigTemplate.Proofs.Domain
import ConfigTemplate.Proofs.Json.ReadingComplete
import ConfigTemplate.Proofs.Template.Outcome

/-!
# Rendering replaces leaves of a tree

A template may be laid out as an outline whose leaves are literals and bare placeholders.  Its
lexemes are those of the outline, so its placeholders are the bare leaves and the strings and keys
whose spelling is a placeholder name.  Rendering writes a literal at each of them, which makes the
outline of a JSON text; no value reaches beyond its own place.
-/

namespace ConfigTemplate

open Json

/-- A leaf of a template. -/
inductive Slot where
  | literal (l : Literal)
  | bare (name : List Char) (isName : isPlaceholderName name = true)

/-- The lexeme of a leaf. -/
def Slot.lexeme : Slot → Lexeme
  | .literal l => l.lexeme
  | .bare name _ => .word name

/-- The placeholder that a string is by its spelling, if it is one. -/
def stringNames (pieces : List Piece) : List String :=
  if isPlaceholderName (contentChars pieces) then [String.ofList (contentChars pieces)] else []

/-- The placeholder that a leaf is, if it is one. -/
def Slot.names : Slot → List String
  | .literal (.string pieces) => stringNames pieces
  | .literal _ => []
  | .bare name _ => [String.ofList name]

namespace Json.Outline

variable {α β : Type}

mutual

/-- What the leaves and the keys contribute, in the order of the text. -/
def gather (leaf : α → List β) (key : List Piece → List β) : Outline α → List β
  | .leaf l => leaf l
  | .emptyArray _ | .emptyObject _ => []
  | .array items => items.gather leaf key
  | .object members => members.gather leaf key

/-- What the items contribute. -/
def Items.gather (leaf : α → List β) (key : List Piece → List β) : Items α → List β
  | .last _ value _ => value.gather leaf key
  | .cons _ value _ rest => value.gather leaf key ++ rest.gather leaf key

/-- What the members contribute, the key of each before its value. -/
def Members.gather (leaf : α → List β) (key : List Piece → List β) : Members α → List β
  | .last label value _ => key label.key ++ value.gather leaf key
  | .cons label value _ rest => key label.key ++ (value.gather leaf key ++ rest.gather leaf key)

end

end Json.Outline

/-- The placeholders of an outline, with repetitions. -/
def Json.Sheet.names (t : Sheet Slot) : List String := t.root.gather Slot.names stringNames

/-- The template that an outline shows. -/
def Json.Sheet.template (t : Sheet Slot) (name : String) : Template :=
  .ofText name (String.ofList (t.chars Slot.lexeme))

namespace Bindings

/-- The text of a string: the plain text of a value, if the spelling is a placeholder. -/
def stringText (b : Bindings) (pieces : List Piece) : String :=
  if isPlaceholderName (contentChars pieces) then
    ((b.get? (String.ofList (contentChars pieces))).map Scalar.display).getD ""
  else pieceText pieces

/-- The value of a leaf: a bare placeholder stands for its value as JSON. -/
def slotValue (b : Bindings) : Slot → Value
  | .literal (.string pieces) => .string (b.stringText pieces)
  | .literal l => l.value
  | .bare name _ => ((b.get? (String.ofList name)).map Scalar.toValue).getD .null

end Bindings

/-! ### The lexemes of an outline -/

theorem Slot.proper_lexeme (s : Slot) :
  s.lexeme.Proper
  := by
  cases s with
  | literal l => apply l.proper_lexeme
  | bare name isName => apply proper_word_of_isPlaceholderName isName

theorem Json.Sheet.row_template (t : Sheet Slot) (name : String) :
  (t.template name).row = t.lexemes Slot.lexeme
  := by
  rw [Template.row, template, Template.ofText, String.toList_ofList,
    Sheet.lexemes_chars Slot.proper_lexeme]

namespace Json

variable {α β : Type} {f : Lexeme → List β}

/-- Blanks do not contribute what other single characters do not. -/
theorem Blanks.flatMap_lexemes (other : ∀ c, f (.other c) = []) (blanks : Blanks) :
  blanks.lexemes.flatMap f = []
  := by
  simp [lexemes, other]

theorem Label.flatMap_lexemes (other : ∀ c, f (.other c) = []) (label : Label) :
  label.lexemes.flatMap f = f (.quoted (contentChars label.key))
  := by
  simp [lexemes, other, Blanks.flatMap_lexemes other]

namespace Outline

variable {leaf : α → Lexeme}

mutual

/-- What lexemes contribute comes from the leaves and the keys. -/
theorem flatMap_lexemes (other : ∀ c, f (.other c) = []) :
    ∀ t : Outline α, (t.lexemes leaf).flatMap f
      = t.gather (fun l => f (leaf l)) fun pieces => f (.quoted (contentChars pieces))
  | .leaf l => by
    simp [lexemes, gather]
  | .emptyArray blanks | .emptyObject blanks => by
    simp [lexemes, gather, other, Blanks.flatMap_lexemes other]
  | .array items => by
    simp [lexemes, gather, other, items.flatMap_lexemes other]
  | .object members => by
    simp [lexemes, gather, other, members.flatMap_lexemes other]

theorem Items.flatMap_lexemes (other : ∀ c, f (.other c) = []) :
    ∀ items : Items α, (items.lexemes leaf).flatMap f
      = items.gather (fun l => f (leaf l)) fun pieces => f (.quoted (contentChars pieces))
  | .last before value after => by
    simp [Items.lexemes, Items.gather, Blanks.flatMap_lexemes other, value.flatMap_lexemes other]
  | .cons before value after rest => by
    simp [Items.lexemes, Items.gather, other, Blanks.flatMap_lexemes other,
      value.flatMap_lexemes other, rest.flatMap_lexemes other]

theorem Members.flatMap_lexemes (other : ∀ c, f (.other c) = []) :
    ∀ members : Members α, (members.lexemes leaf).flatMap f
      = members.gather (fun l => f (leaf l)) fun pieces => f (.quoted (contentChars pieces))
  | .last label value after => by
    simp [Members.lexemes, Members.gather, Blanks.flatMap_lexemes other,
      Label.flatMap_lexemes other, value.flatMap_lexemes other]
  | .cons label value after rest => by
    simp [Members.lexemes, Members.gather, other, Blanks.flatMap_lexemes other,
      Label.flatMap_lexemes other, value.flatMap_lexemes other, rest.flatMap_lexemes other]

end

end Outline

end Json

/-! ### Placeholders and stray identifiers -/

theorem names_quoted (pieces : List Piece) :
  (Lexeme.quoted (contentChars pieces)).names = stringNames pieces
  := by
  simp only [Lexeme.names, Lexeme.placeholder?, stringNames]
  split <;> rfl

theorem Slot.names_lexeme (s : Slot) :
  s.lexeme.names = s.names
  := by
  cases s with
  | literal l =>
    cases l with
    | null => rfl
    | boolean b => cases b <;> rfl
    | number n => rfl
    | string pieces => apply names_quoted
  | bare name isName => simp [Slot.names, lexeme, Lexeme.names, Lexeme.placeholder?, isName]

/-- The placeholders of the template are those of the outline. -/
theorem Json.Sheet.usedNames_template (t : Sheet Slot) (name : String) :
  (t.template name).usedNames = t.names
  := by
  have other : ∀ c, (Lexeme.other c).names = [] := fun _ => rfl
  rw [Template.usedNames_eq, row_template, Sheet.lexemes, List.flatMap_append, List.flatMap_append,
    Blanks.flatMap_lexemes other, Blanks.flatMap_lexemes other, Outline.flatMap_lexemes other]
  simp [names, Slot.names_lexeme, names_quoted]

theorem Slot.identifier?_lexeme (s : Slot) :
  s.lexeme.identifier? = s.lexeme.placeholder?
  := by
  cases s with
  | literal l =>
    cases l with
    | null => rfl
    | boolean b => cases b <;> rfl
    | number n => rfl
    | string pieces => rfl
  | bare name isName =>
    have notKeyword : isKeyword name = false := by
      by_contra keyword
      simp [isPlaceholderName_of_isKeyword (by simpa using keyword)] at isName
    simp [lexeme, Lexeme.identifier?, Lexeme.placeholder?, isName, notKeyword]

/-- Nothing in the template is a stray identifier. -/
theorem Json.Sheet.strayNames_template (t : Sheet Slot) (name : String) :
  (t.template name).strayNames = []
  := by
  have none : straysOf (t.template name).source.toList = [] := by
    apply filter_strays_eq_nil
    rw [show ConfigTemplate.lexemes (t.template name).source.toList = _ from t.row_template name]
    exact t.forall_lexemes (P := fun l => l.identifier? = l.placeholder?) (fun _ => rfl)
      (fun _ => rfl) Slot.identifier?_lexeme
  rw [Template.strayNames, none, List.map_nil]

/-! ### Values in their places -/

namespace Bindings

variable (b : Bindings)

theorem written_other (c : Char) :
  b.written (.other c) = [c]
  := rfl

/-- A whole value is written as a literal. -/
theorem exists_literal {v : Scalar} (whole : v.Whole) :
  ∃ l : Literal, v.literalChars = l.lexeme.chars ∧ l.value = v.toValue
  := by
  cases v with
  | boolean b => cases b <;> exact ⟨.boolean _, rfl, rfl⟩
  | number n =>
    cases n with
    | integer value fits =>
      refine ⟨.number (.ofInt value fits), ?_, rfl⟩
      exact (Numeral.spelled_ofInt value 'e').symm
    | float => contradiction
  | text s =>
    obtain ⟨pieces, written, same⟩ := Literal.exists_string s
    exact ⟨.string pieces, written, by rw [Literal.value, same]; rfl⟩

/-- A name has a value, and it is a whole one. -/
def HasWhole (name : String) : Prop := ∃ v, b.get? name = some v ∧ v.Whole

variable {b}

/-- What is written at a string is a string with the text of it. -/
theorem exists_pieces_of_written {pieces : List Piece}
    (covered : ∀ name ∈ stringNames pieces, b.HasWhole name) :
  ∃ filled : List Piece, b.written (.quoted (contentChars pieces))
      = (Lexeme.quoted (contentChars filled)).chars
    ∧ pieceText filled = b.stringText pieces
  := by
  unfold stringNames at covered
  unfold stringText written Lexeme.placeholder?
  cases isName : isPlaceholderName (contentChars pieces) with
  | false => exact ⟨pieces, by simp [isName], by simp⟩
  | true =>
    obtain ⟨v, bound, -⟩ := covered (String.ofList (contentChars pieces)) (by simp [isName])
    obtain ⟨filled, written, same⟩ := Literal.exists_string v.display
    refine ⟨filled, ?_, ?_⟩
    · simp only [isName, ↓reduceIte, bound]
      exact written
    · simpa [bound] using same

/-- What is written at a leaf is a literal with the value of it. -/
theorem exists_literal_of_written {s : Slot} (covered : ∀ name ∈ s.names, b.HasWhole name) :
  ∃ l : Literal, b.written s.lexeme = l.lexeme.chars ∧ l.value = b.slotValue s
  := by
  cases s with
  | literal l =>
    cases l with
    | string pieces =>
      obtain ⟨filled, written, same⟩ := exists_pieces_of_written covered
      exact ⟨.string filled, written, by rw [Literal.value, same]; rfl⟩
    | null => exact ⟨.null, rfl, rfl⟩
    | boolean b => cases b <;> exact ⟨.boolean _, rfl, rfl⟩
    | number n => exact ⟨.number n, rfl, rfl⟩
  | bare name isName =>
    obtain ⟨v, bound, whole⟩ := covered (String.ofList name) (by simp [Slot.names])
    obtain ⟨l, written, same⟩ := exists_literal whole
    refine ⟨l, ?_, ?_⟩
    · rw [← written]
      simp [Bindings.written, Slot.lexeme, Lexeme.placeholder?, isName, bound, Scalar.writtenAs]
    · simp [slotValue, bound, same]

end Bindings

namespace Json

variable {b : Bindings}

theorem Blanks.flatMap_written (blanks : Blanks) :
  blanks.lexemes.flatMap b.written = blanks.chars
  := by
  simp [lexemes, List.flatMap_map, Bindings.written_other]

/-- What is written at a key is a key with the text of it. -/
theorem Label.exists_filled (label : Label)
    (covered : ∀ name ∈ stringNames label.key, b.HasWhole name) :
  ∃ filled : Label, label.lexemes.flatMap b.written = filled.chars
    ∧ pieceText filled.key = b.stringText label.key
  := by
  obtain ⟨key, written, same⟩ := Bindings.exists_pieces_of_written covered
  refine ⟨⟨label.before, key, label.beforeColon, label.afterColon⟩, ?_, same⟩
  simp [lexemes, Label.chars, Blanks.flatMap_written, written, Bindings.written_other, Lexeme.chars]

namespace Outline

mutual

/-- What is written at the lexemes of an outline is an outline of literals, with the values in the
places of the placeholders. -/
theorem exists_filled :
    ∀ t : Outline Slot, (∀ name ∈ t.gather Slot.names stringNames, b.HasWhole name) →
      ∃ u : Outline Literal, (t.lexemes Slot.lexeme).flatMap b.written = u.chars Literal.lexeme
        ∧ u.literalValue = t.value b.slotValue b.stringText ∧ u.depth = t.depth
  | .leaf s, covered => by
    obtain ⟨l, written, same⟩ := Bindings.exists_literal_of_written covered
    exact ⟨.leaf l, by simpa [lexemes] using written, same, rfl⟩
  | .emptyArray blanks, _ =>
    ⟨.emptyArray blanks, by simp [lexemes, Blanks.flatMap_written, Bindings.written_other], rfl,
      rfl⟩
  | .array items, covered => by
    obtain ⟨filled, written, same, deep⟩ := items.exists_filled covered
    refine ⟨.array filled, ?_, ?_, ?_⟩
    · simp [lexemes, written, Bindings.written_other]
    · simp [literalValue, value, same]
    · simp [depth, deep]
  | .emptyObject blanks, _ =>
    ⟨.emptyObject blanks, by simp [lexemes, Blanks.flatMap_written, Bindings.written_other], rfl,
      rfl⟩
  | .object members, covered => by
    obtain ⟨filled, written, same, deep⟩ := members.exists_filled covered
    refine ⟨.object filled, ?_, ?_, ?_⟩
    · simp [lexemes, written, Bindings.written_other]
    · simp [literalValue, value, same]
    · simp [depth, deep]

theorem Items.exists_filled :
    ∀ items : Items Slot, (∀ name ∈ items.gather Slot.names stringNames, b.HasWhole name) →
      ∃ filled : Items Literal,
        (items.lexemes Slot.lexeme).flatMap b.written = filled.chars Literal.lexeme
          ∧ filled.values Literal.value pieceText = items.values b.slotValue b.stringText
          ∧ filled.depth = items.depth
  | .last before value after, covered => by
    obtain ⟨u, written, same, deep⟩ := value.exists_filled covered
    refine ⟨.last before u after, ?_, ?_, deep⟩
    · simp [Items.lexemes, written, Blanks.flatMap_written]
    · simpa [Items.values] using same
  | .cons before value after rest, covered => by
    rw [Items.gather, List.forall_mem_append] at covered
    obtain ⟨u, written, same, deep⟩ := value.exists_filled covered.1
    obtain ⟨filled, writtenRest, sameRest, deepRest⟩ := rest.exists_filled covered.2
    refine ⟨.cons before u after filled, ?_, ?_, ?_⟩
    · simp [Items.lexemes, written, writtenRest, Blanks.flatMap_written, Bindings.written_other]
    · simpa [Items.values, sameRest] using same
    · simp [Items.depth, deep, deepRest]

theorem Members.exists_filled :
    ∀ members : Members Slot, (∀ name ∈ members.gather Slot.names stringNames, b.HasWhole name) →
      ∃ filled : Members Literal,
        (members.lexemes Slot.lexeme).flatMap b.written = filled.chars Literal.lexeme
          ∧ filled.entries Literal.value pieceText = members.entries b.slotValue b.stringText
          ∧ filled.depth = members.depth
  | .last label value after, covered => by
    rw [Members.gather, List.forall_mem_append] at covered
    obtain ⟨key, writtenKey, sameKey⟩ := label.exists_filled covered.1
    obtain ⟨u, written, same, deep⟩ := value.exists_filled covered.2
    refine ⟨.last key u after, ?_, ?_, deep⟩
    · simp [Members.lexemes, writtenKey, written, Blanks.flatMap_written]
    · simpa [Members.entries, sameKey] using same
  | .cons label value after rest, covered => by
    rw [Members.gather, List.forall_mem_append, List.forall_mem_append] at covered
    obtain ⟨key, writtenKey, sameKey⟩ := label.exists_filled covered.1
    obtain ⟨u, written, same, deep⟩ := value.exists_filled covered.2.1
    obtain ⟨filled, writtenRest, sameRest, deepRest⟩ := rest.exists_filled covered.2.2
    refine ⟨.cons key u after filled, ?_, ?_, ?_⟩
    · simp [Members.lexemes, writtenKey, written, writtenRest, Blanks.flatMap_written,
        Bindings.written_other]
    · simpa [Members.entries, sameKey, sameRest] using same
    · simp [Members.depth, deep, deepRest]

end

end Outline

/-- The bindings are whole values for the placeholders of an outline, and in the strict mode they
have no other names. -/
structure Sheet.Fitting (t : Sheet Slot) (b : Bindings) (mode : RenderMode) : Prop where
  covered : ∀ name ∈ t.names, b.HasWhole name
  known : mode.strict = true → ∀ name, b.contains name = true → name ∈ t.names

theorem Sheet.Fitting.ready {t : Sheet Slot} {mode : RenderMode} (fitting : t.Fitting b mode)
    (name : String) :
  (t.template name).Ready b mode
  := by
  refine ⟨t.strayNames_template name, ?_, ?_⟩
  · intro used mem
    rw [usedNames_template] at mem
    obtain ⟨v, bound, -⟩ := fitting.covered used mem
    exact Option.isSome_iff_exists.2 ⟨v, bound⟩
  · rw [usedNames_template]
    exact fitting.known

/-- The text of an outline with the values put in has the value of the outline. -/
theorem Sheet.toValue_filledChars (t : Sheet Slot) (name : String)
    (deep : t.root.depth ≤ depthLimit) (covered : ∀ name ∈ t.names, b.HasWhole name) :
  (Document.ofChars ((t.template name).filledChars b)).toValue
    = .ok (t.root.value b.slotValue b.stringText)
  := by
  obtain ⟨u, written, same, depth⟩ := t.root.exists_filled covered
  have filled : (t.template name).filledChars b
      = Sheet.chars Literal.lexeme ⟨t.before, u, t.after⟩ := by
    rw [Template.filledChars, row_template, Sheet.chars_eq, Sheet.lexemes, List.flatMap_append,
      List.flatMap_append, Blanks.flatMap_written, Blanks.flatMap_written, written,
      List.append_assoc]
  rw [filled, Sheet.toValue_ofChars _ (by simpa [depth] using deep), same]

/-- **Rendering replaces leaves.**  The template that an outline shows is rendered to the value of
the outline, with every bare leaf replaced by its value and every quoted string or key by the plain
text of it. -/
theorem Sheet.map_value_render_template (t : Sheet Slot) (name : String) (mode : RenderMode)
    (deep : t.root.depth ≤ depthLimit) (fitting : t.Fitting b mode) :
  ((t.template name).render b mode).map Rendered.value
    = .ok (t.root.value b.slotValue b.stringText)
  := by
  rw [Template.render_of_ready (fitting.ready name),
    t.toValue_filledChars name deep fitting.covered]
  rfl

/-- An object with a quoted placeholder as its key and a bare one as its value. -/
def greeting : Sheet Slot where
  before := .none
  root := .object (.last
    ⟨.none, [.plain 'W' (by decide), .plain 'H' (by decide), .plain 'O' (by decide)], .none, .none⟩
    (.leaf (.bare "HOW".toList (by decide))) .none)
  after := .none

/-- Texts for the two placeholders. -/
def greetingValues (who how : String) : Bindings :=
  (Bindings.empty.insert "WHO" (.text who)).insert "HOW" (.text how)

theorem names_greeting :
  greeting.names = ["WHO", "HOW"]
  := by decide

theorem fitting_greeting (who how : String) (mode : RenderMode) :
  greeting.Fitting (greetingValues who how) mode
  := by
  constructor
  · rw [names_greeting]
    intro name mem
    obtain rfl | rfl : name = "WHO" ∨ name = "HOW" := by simpa using mem
    · exact ⟨.text who, rfl, trivial⟩
    · exact ⟨.text how, rfl, trivial⟩
  · rw [names_greeting]
    intro _ name bound
    rw [Bindings.contains, Dictionary.contains_iff,
      show (greetingValues who how).values.names = ["HOW", "WHO"] from rfl] at bound
    simpa [or_comm] using bound

theorem map_value_render_greeting :
  ((Template.ofText "greeting" "\x7b\"WHO\":HOW\x7d").render
      (greetingValues "you\":" "say \"hi\"\n") ⟨true, false⟩).map Rendered.value
    = .ok (.object [("you\":", .string "say \"hi\"\n")])
  := greeting.map_value_render_template "greeting" ⟨true, false⟩ (by decide)
    (fitting_greeting _ _ _)

/-- The greeting is rendered to the object with one text as its key and the other as its value. -/
theorem render_greeting (who how : String) (mode : RenderMode) :
  (greeting.template "greeting").render (greetingValues who how) mode
    = .ok ⟨if mode.pretty then (Value.object [(who, .string how)]).pretty ++ "\n"
        else String.ofList
          ('\x7b' :: (stringChars who.toList ++ ':' :: (stringChars how.toList ++ ['\x7d']))),
        .object [(who, .string how)]⟩
  := by
  have fitting := fitting_greeting who how mode
  have filled : (greeting.template "greeting").filledChars (greetingValues who how)
      = '\x7b' :: (stringChars who.toList ++ ':' :: (stringChars how.toList ++ ['\x7d'])) := by
    rw [Template.filledChars, greeting.row_template]
    rfl
  rw [Template.render_of_ready (fitting.ready "greeting"),
    greeting.toValue_filledChars "greeting" (by decide) fitting.covered, filled]
  rfl

end Json

end ConfigTemplate
