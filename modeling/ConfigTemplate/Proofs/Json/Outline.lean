import ConfigTemplate.Proofs.Json.StringText

/-!
# Outlines of JSON texts

An outline is a JSON text as a tree that keeps all of its layout: the blanks between the parts and
the spelling of every string.  The leaves are left open, so that an outline may also be one of a
template.  The text of an outline is given by its lexemes, and these are a tidy row.
-/

namespace ConfigTemplate.Json

/-- Blank characters between the parts of a text. -/
structure Blanks where
  chars : List Char
  blank : ∀ c ∈ chars, isSpace c = true

/-- No blanks. -/
def Blanks.none : Blanks := ⟨[], nofun⟩

/-- What stands in front of the value of a member: the key, and the colon with blanks around. -/
structure Label where
  before : Blanks
  key : List Piece
  beforeColon : Blanks
  afterColon : Blanks

mutual

/-- A text that is a leaf, an array or an object. -/
inductive Outline (α : Type) where
  | leaf (leaf : α)
  | emptyArray (blanks : Blanks)
  | array (items : Outline.Items α)
  | emptyObject (blanks : Blanks)
  | object (members : Outline.Members α)

/-- The items of an array, at least one, with the blanks around each. -/
inductive Outline.Items (α : Type) where
  | last (before : Blanks) (value : Outline α) (after : Blanks)
  | cons (before : Blanks) (value : Outline α) (after : Blanks) (rest : Outline.Items α)

/-- The members of an object, at least one. -/
inductive Outline.Members (α : Type) where
  | last (label : Label) (value : Outline α) (after : Blanks)
  | cons (label : Label) (value : Outline α) (after : Blanks) (rest : Outline.Members α)

end

/-! ### Lexemes and text -/

/-- Every blank is a lexeme. -/
def Blanks.lexemes (blanks : Blanks) : List Lexeme :=
  blanks.chars.map .other

/-- The content of a string that consists of the given pieces. -/
def contentChars (pieces : List Piece) : List Char :=
  pieces.flatMap Piece.chars

/-- The lexemes in front of the value of a member. -/
def Label.lexemes (label : Label) : List Lexeme :=
  label.before.lexemes ++ .quoted (contentChars label.key) :: label.beforeColon.lexemes
    ++ .other ':' :: label.afterColon.lexemes

namespace Outline

variable {α : Type}

mutual

/-- The lexemes of the text, given those of the leaves. -/
def lexemes (leaf : α → Lexeme) : Outline α → List Lexeme
  | .leaf l => [leaf l]
  | .emptyArray blanks => .other '[' :: blanks.lexemes ++ [.other ']']
  | .array items => .other '[' :: items.lexemes leaf ++ [.other ']']
  | .emptyObject blanks => .other '\x7b' :: blanks.lexemes ++ [.other '\x7d']
  | .object members => .other '\x7b' :: members.lexemes leaf ++ [.other '\x7d']

/-- The lexemes of the items and the commas between them. -/
def Items.lexemes (leaf : α → Lexeme) : Items α → List Lexeme
  | .last before value after => before.lexemes ++ value.lexemes leaf ++ after.lexemes
  | .cons before value after rest =>
    before.lexemes ++ value.lexemes leaf ++ after.lexemes ++ .other ',' :: rest.lexemes leaf

/-- The lexemes of the members and the commas between them. -/
def Members.lexemes (leaf : α → Lexeme) : Members α → List Lexeme
  | .last label value after => label.lexemes ++ value.lexemes leaf ++ after.lexemes
  | .cons label value after rest =>
    label.lexemes ++ value.lexemes leaf ++ after.lexemes ++ .other ',' :: rest.lexemes leaf

end

mutual

/-- How many brackets are open at once at most. -/
def depth : Outline α → Nat
  | .leaf _ => 0
  | .emptyArray _ | .emptyObject _ => 1
  | .array items => items.depth + 1
  | .object members => members.depth + 1

/-- How many brackets the items open at most. -/
def Items.depth : Items α → Nat
  | .last _ value _ => value.depth
  | .cons _ value _ rest => max value.depth rest.depth

/-- How many brackets the members open at most. -/
def Members.depth : Members α → Nat
  | .last _ value _ => value.depth
  | .cons _ value _ rest => max value.depth rest.depth

end

mutual

/-- The value of the text, given those of the leaves and the keys. -/
def value (leaf : α → Value) (key : List Piece → String) : Outline α → Value
  | .leaf l => leaf l
  | .emptyArray _ => .array []
  | .array items => .array (items.values leaf key)
  | .emptyObject _ => .object []
  | .object members => .object (sortEntries (members.entries leaf key))

/-- The values of the items. -/
def Items.values (leaf : α → Value) (key : List Piece → String) : Items α → List Value
  | .last _ value _ => [value.value leaf key]
  | .cons _ value _ rest => value.value leaf key :: rest.values leaf key

/-- The members in the order of the text. -/
def Members.entries (leaf : α → Value) (key : List Piece → String) :
    Members α → List (String × Value)
  | .last label value _ => [(key label.key, value.value leaf key)]
  | .cons label value _ rest =>
    (key label.key, value.value leaf key) :: rest.entries leaf key

end

end Outline

/-- A whole text: an outline with the blanks around it. -/
structure Sheet (α : Type) where
  before : Blanks
  root : Outline α
  after : Blanks

namespace Sheet

variable {α : Type}

/-- The lexemes of the text, given those of the leaves. -/
def lexemes (leaf : α → Lexeme) (t : Sheet α) : List Lexeme :=
  t.before.lexemes ++ t.root.lexemes leaf ++ t.after.lexemes

/-- The characters of the text, given the lexemes of the leaves. -/
def chars (leaf : α → Lexeme) (t : Sheet α) : List Char :=
  (t.lexemes leaf).flatMap Lexeme.chars

end Sheet

/-! ### The row of lexemes is tidy -/

open Lexeme (Tidy Clear)

theorem tidy_other {c : Char} (separates : Lexeme.isSeparator c = true) {row : List Lexeme}
    (tidy : Tidy row) :
  Tidy (.other c :: row)
  := ⟨.other separates, nofun, tidy⟩

theorem clear_other (c : Char) (row : List Lexeme) :
  Clear (.other c :: row)
  := by
  rintro lexeme ⟨⟩
  rfl

theorem isSeparator_of_isSpace {c : Char} (h : isSpace c = true) :
  Lexeme.isSeparator c = true
  := by
  simp only [isSpace, Bool.or_eq_true, beq_iff_eq] at h
  rcases h with ((rfl | rfl) | rfl) | rfl <;> rfl

theorem Blanks.tidy (blanks : Blanks) {row : List Lexeme} (tidy : Tidy row) :
  Tidy (blanks.lexemes ++ row)
  := by
  obtain ⟨chars, blank⟩ := blanks
  induction chars with
  | nil => apply tidy
  | cons c rest ih =>
    apply tidy_other (isSeparator_of_isSpace (blank c (by simp)))
    apply ih fun d mem => blank d (List.mem_cons_of_mem c mem)

theorem Blanks.clear (blanks : Blanks) {row : List Lexeme} (clear : Clear row) :
  Clear (blanks.lexemes ++ row)
  := by
  obtain ⟨chars, blank⟩ := blanks
  cases chars with
  | nil => apply clear
  | cons c rest => apply clear_other

theorem Label.tidy (label : Label) {row : List Lexeme} (tidy : Tidy row) :
  Tidy (label.lexemes ++ row)
  := by
  simp only [lexemes, List.append_assoc, List.cons_append]
  apply Blanks.tidy
  refine ⟨.quoted (isContent_pieces label.key), nofun, ?_⟩
  apply Blanks.tidy
  apply tidy_other rfl
  apply Blanks.tidy _ tidy

namespace Outline

variable {α : Type} {leaf : α → Lexeme}

mutual

/-- The lexemes of an outline in front of a tidy row that starts with no run are a tidy row. -/
theorem tidy (proper : ∀ l, (leaf l).Proper) :
    ∀ (t : Outline α) {row : List Lexeme}, Tidy row → Clear row → Tidy (t.lexemes leaf ++ row)
  | .leaf l, row, tidyRow, clear => ⟨proper l, fun _ => clear, tidyRow⟩
  | .emptyArray blanks, row, tidyRow, _ => by
    simp only [lexemes, List.append_assoc, List.cons_append]
    apply tidy_other rfl
    apply Blanks.tidy
    apply tidy_other rfl tidyRow
  | .array items, row, tidyRow, _ => by
    simp only [lexemes, List.append_assoc, List.cons_append]
    apply tidy_other rfl
    apply Items.tidy proper
    · apply tidy_other rfl tidyRow
    · apply clear_other
  | .emptyObject blanks, row, tidyRow, _ => by
    simp only [lexemes, List.append_assoc, List.cons_append]
    apply tidy_other rfl
    apply Blanks.tidy
    apply tidy_other rfl tidyRow
  | .object members, row, tidyRow, _ => by
    simp only [lexemes, List.append_assoc, List.cons_append]
    apply tidy_other rfl
    apply Members.tidy proper
    · apply tidy_other rfl tidyRow
    · apply clear_other

theorem Items.tidy (proper : ∀ l, (leaf l).Proper) :
    ∀ (items : Items α) {row : List Lexeme}, Tidy row → Clear row →
      Tidy (items.lexemes leaf ++ row)
  | .last before value after, row, tidyRow, clear => by
    simp only [Items.lexemes, List.append_assoc]
    apply Blanks.tidy
    apply Outline.tidy proper
    · apply Blanks.tidy _ tidyRow
    · apply Blanks.clear _ clear
  | .cons before value after rest, row, tidyRow, clear => by
    simp only [Items.lexemes, List.append_assoc, List.cons_append]
    apply Blanks.tidy
    apply Outline.tidy proper
    · apply Blanks.tidy
      apply tidy_other rfl
      apply Items.tidy proper rest tidyRow clear
    · apply Blanks.clear
      apply clear_other

theorem Members.tidy (proper : ∀ l, (leaf l).Proper) :
    ∀ (members : Members α) {row : List Lexeme}, Tidy row → Clear row →
      Tidy (members.lexemes leaf ++ row)
  | .last label value after, row, tidyRow, clear => by
    simp only [Members.lexemes, List.append_assoc]
    apply Label.tidy
    apply Outline.tidy proper
    · apply Blanks.tidy _ tidyRow
    · apply Blanks.clear _ clear
  | .cons label value after rest, row, tidyRow, clear => by
    simp only [Members.lexemes, List.append_assoc, List.cons_append]
    apply Label.tidy
    apply Outline.tidy proper
    · apply Blanks.tidy
      apply tidy_other rfl
      apply Members.tidy proper rest tidyRow clear
    · apply Blanks.clear
      apply clear_other

end

end Outline

/-- The lexemes of a text are those that its outline shows. -/
theorem Sheet.lexemes_chars {α : Type} {leaf : α → Lexeme} (proper : ∀ l, (leaf l).Proper)
    (t : Sheet α) :
  ConfigTemplate.lexemes (t.chars leaf) = t.lexemes leaf
  := by
  apply lexemes_flatMap_chars
  rw [Sheet.lexemes, List.append_assoc]
  apply Blanks.tidy
  apply Outline.tidy proper
  · rw [← List.append_nil t.after.lexemes]
    apply Blanks.tidy
    exact trivial
  · rw [← List.append_nil t.after.lexemes]
    apply Blanks.clear
    rintro lexeme ⟨⟩

/-! ### Every lexeme of an outline -/

theorem Blanks.forall_lexemes {P : Lexeme → Prop} (other : ∀ c, P (.other c)) (blanks : Blanks) :
  ∀ lexeme ∈ blanks.lexemes, P lexeme
  := by
  rintro lexeme mem
  obtain ⟨c, -, rfl⟩ := List.mem_map.1 mem
  apply other

theorem Label.forall_lexemes {P : Lexeme → Prop} (other : ∀ c, P (.other c))
    (quoted : ∀ pieces, P (.quoted (contentChars pieces))) (label : Label) :
  ∀ lexeme ∈ label.lexemes, P lexeme
  := by
  simp only [lexemes, List.forall_mem_append, List.forall_mem_cons]
  exact ⟨⟨Blanks.forall_lexemes other _, quoted _, Blanks.forall_lexemes other _⟩, other _,
    Blanks.forall_lexemes other _⟩

namespace Outline

variable {α : Type} {leaf : α → Lexeme} {P : Lexeme → Prop}

mutual

/-- What holds of the leaves, the keys and the characters between them holds of every lexeme. -/
theorem forall_lexemes (other : ∀ c, P (.other c))
    (quoted : ∀ pieces, P (.quoted (contentChars pieces))) (leaves : ∀ l, P (leaf l)) :
    ∀ t : Outline α, ∀ lexeme ∈ t.lexemes leaf, P lexeme
  | .leaf l => by
    simpa [lexemes] using leaves l
  | .emptyArray blanks | .emptyObject blanks => by
    simp only [lexemes, List.forall_mem_append, List.forall_mem_cons]
    exact ⟨⟨other _, Blanks.forall_lexemes other blanks⟩, other _, nofun⟩
  | .array items => by
    simp only [lexemes, List.forall_mem_append, List.forall_mem_cons]
    exact ⟨⟨other _, items.forall_lexemes other quoted leaves⟩, other _, nofun⟩
  | .object members => by
    simp only [lexemes, List.forall_mem_append, List.forall_mem_cons]
    exact ⟨⟨other _, members.forall_lexemes other quoted leaves⟩, other _, nofun⟩

theorem Items.forall_lexemes (other : ∀ c, P (.other c))
    (quoted : ∀ pieces, P (.quoted (contentChars pieces))) (leaves : ∀ l, P (leaf l)) :
    ∀ items : Items α, ∀ lexeme ∈ items.lexemes leaf, P lexeme
  | .last before value after => by
    simp only [Items.lexemes, List.forall_mem_append]
    exact ⟨⟨before.forall_lexemes other, value.forall_lexemes other quoted leaves⟩,
      after.forall_lexemes other⟩
  | .cons before value after rest => by
    simp only [Items.lexemes, List.forall_mem_append, List.forall_mem_cons]
    exact ⟨⟨⟨before.forall_lexemes other, value.forall_lexemes other quoted leaves⟩,
      after.forall_lexemes other⟩, other _, rest.forall_lexemes other quoted leaves⟩

theorem Members.forall_lexemes (other : ∀ c, P (.other c))
    (quoted : ∀ pieces, P (.quoted (contentChars pieces))) (leaves : ∀ l, P (leaf l)) :
    ∀ members : Members α, ∀ lexeme ∈ members.lexemes leaf, P lexeme
  | .last label value after => by
    simp only [Members.lexemes, List.forall_mem_append]
    exact ⟨⟨label.forall_lexemes other quoted, value.forall_lexemes other quoted leaves⟩,
      after.forall_lexemes other⟩
  | .cons label value after rest => by
    simp only [Members.lexemes, List.forall_mem_append, List.forall_mem_cons]
    exact ⟨⟨⟨label.forall_lexemes other quoted, value.forall_lexemes other quoted leaves⟩,
      after.forall_lexemes other⟩, other _, rest.forall_lexemes other quoted leaves⟩

end

end Outline

theorem Sheet.forall_lexemes {α : Type} {leaf : α → Lexeme} {P : Lexeme → Prop}
    (other : ∀ c, P (.other c)) (quoted : ∀ pieces, P (.quoted (contentChars pieces)))
    (leaves : ∀ l, P (leaf l)) (t : Sheet α) :
  ∀ lexeme ∈ t.lexemes leaf, P lexeme
  := by
  simp only [lexemes, List.forall_mem_append]
  exact ⟨⟨t.before.forall_lexemes other, t.root.forall_lexemes other quoted leaves⟩,
    t.after.forall_lexemes other⟩

/-! ### Characters of the parts -/

@[simp]
theorem Blanks.flatMap_chars_lexemes (blanks : Blanks) :
  blanks.lexemes.flatMap Lexeme.chars = blanks.chars
  := by
  simp [lexemes, List.flatMap_map, Lexeme.chars]

/-- The characters in front of the value of a member. -/
def Label.chars (label : Label) : List Char :=
  label.before.chars ++ '"' :: (contentChars label.key ++ '"' :: (label.beforeColon.chars
    ++ ':' :: label.afterColon.chars))

@[simp]
theorem Label.flatMap_chars_lexemes (label : Label) :
  label.lexemes.flatMap Lexeme.chars = label.chars
  := by
  simp [lexemes, chars, Lexeme.chars]

namespace Outline

variable {α : Type}

/-- The characters of the text, given the lexemes of the leaves. -/
def chars (leaf : α → Lexeme) (t : Outline α) : List Char :=
  (t.lexemes leaf).flatMap Lexeme.chars

/-- The characters of the items and the commas between them. -/
def Items.chars (leaf : α → Lexeme) (items : Items α) : List Char :=
  (items.lexemes leaf).flatMap Lexeme.chars

/-- The characters of the members and the commas between them. -/
def Members.chars (leaf : α → Lexeme) (members : Members α) : List Char :=
  (members.lexemes leaf).flatMap Lexeme.chars

section

variable (leaf : α → Lexeme)

@[simp]
theorem chars_leaf (l : α) :
  (Outline.leaf l).chars leaf = (leaf l).chars
  := by
  simp [chars, lexemes]

@[simp]
theorem chars_emptyArray (blanks : Blanks) :
  (Outline.emptyArray blanks).chars leaf = '[' :: (blanks.chars ++ [']'])
  := by
  simp [chars, lexemes, Lexeme.chars]

@[simp]
theorem chars_array (items : Items α) :
  (Outline.array items).chars leaf = '[' :: (items.chars leaf ++ [']'])
  := by
  simp [chars, Items.chars, lexemes, Lexeme.chars]

@[simp]
theorem chars_emptyObject (blanks : Blanks) :
  (Outline.emptyObject blanks).chars leaf = '\x7b' :: (blanks.chars ++ ['\x7d'])
  := by
  simp [chars, lexemes, Lexeme.chars]

@[simp]
theorem chars_object (members : Members α) :
  (Outline.object members).chars leaf = '\x7b' :: (members.chars leaf ++ ['\x7d'])
  := by
  simp [chars, Members.chars, lexemes, Lexeme.chars]

@[simp]
theorem Items.chars_last (before : Blanks) (value : Outline α) (after : Blanks) :
  (Items.last before value after).chars leaf
    = before.chars ++ (value.chars leaf ++ after.chars)
  := by
  simp [Items.chars, Outline.chars, Items.lexemes]

@[simp]
theorem Items.chars_cons (before : Blanks) (value : Outline α) (after : Blanks) (rest : Items α) :
  (Items.cons before value after rest).chars leaf
    = before.chars ++ (value.chars leaf ++ (after.chars ++ ',' :: rest.chars leaf))
  := by
  simp [Items.chars, Outline.chars, Items.lexemes, Lexeme.chars]

@[simp]
theorem Members.chars_last (label : Label) (value : Outline α) (after : Blanks) :
  (Members.last label value after).chars leaf
    = label.chars ++ (value.chars leaf ++ after.chars)
  := by
  simp [Members.chars, Outline.chars, Members.lexemes]

@[simp]
theorem Members.chars_cons (label : Label) (value : Outline α) (after : Blanks)
    (rest : Members α) :
  (Members.cons label value after rest).chars leaf
    = label.chars ++ (value.chars leaf ++ (after.chars ++ ',' :: rest.chars leaf))
  := by
  simp [Members.chars, Outline.chars, Members.lexemes, Lexeme.chars]

end

end Outline

theorem Sheet.chars_eq {α : Type} (leaf : α → Lexeme) (t : Sheet α) :
  t.chars leaf = t.before.chars ++ (t.root.chars leaf ++ t.after.chars)
  := by
  simp [Sheet.chars, Sheet.lexemes, Outline.chars]

end ConfigTemplate.Json
