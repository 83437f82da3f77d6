import ConfigTemplate.Proofs.Json.ReadingComplete
import ConfigTemplate.Proofs.Json.ReadingSound

/-!
# Exchanging literals

A text may be written twice, with other strings and other literals the second time.  Where a
literal that is exchanged does not reach beyond its place, it is a leaf of the first text, so what
stands for it is a leaf of the second one.  Hence the second text has an outline if the first one
has: `exists_sheet_of_exchange`.
-/

namespace ConfigTemplate.Json

/-- A value reaches beyond its place if it is a number beside a character of a number, or a string
with a colon behind it. -/
def Value.reachesOut (before : Option Char) (behind : List Char) : Value → Bool
  | .number _ =>
    before.any Lexeme.continuesNumber || behind.head?.any Lexeme.continuesNumber
  | .string _ => (behind.dropWhile isSpace).head? == some ':'
  | _ => false

/-- A part of a text that is written twice. -/
inductive Twin (β : Type) where
  /-- A character that is the same both times. -/
  | shared (c : Char)
  /-- Two strings, given by their contents. -/
  | string (content other : List Char)
  /-- A literal, and a leaf that stands for it the second time. -/
  | exchanged (l : Literal) (m : β)

namespace Twin

variable {β : Type}

/-- What is written the first time. -/
def first : Twin β → List Char
  | .shared c => [c]
  | .string content _ => (Lexeme.quoted content).chars
  | .exchanged l _ => l.lexeme.chars

/-- What is written the second time, given the lexemes of the leaves. -/
def second (leaf : β → Lexeme) : Twin β → List Char
  | .shared c => [c]
  | .string _ other => (Lexeme.quoted other).chars
  | .exchanged _ m => (leaf m).chars

/-- The first text of a row. -/
def firsts (row : List (Twin β)) : List Char := row.flatMap first

/-- The second text of a row. -/
def seconds (leaf : β → Lexeme) (row : List (Twin β)) : List Char := row.flatMap (second leaf)

section

variable (leaf : β → Lexeme) (rest : List (Twin β))

@[simp]
theorem firsts_shared (c : Char) :
  firsts (.shared c :: rest) = c :: firsts rest
  := rfl

@[simp]
theorem firsts_string (content other : List Char) :
  firsts (.string content other :: rest) = '"' :: (content ++ '"' :: firsts rest)
  := by
  simp [firsts, first, Lexeme.chars]

@[simp]
theorem firsts_exchanged (l : Literal) (m : β) :
  firsts (.exchanged l m :: rest) = l.lexeme.chars ++ firsts rest
  := rfl

@[simp]
theorem seconds_shared (c : Char) :
  seconds leaf (.shared c :: rest) = c :: seconds leaf rest
  := rfl

@[simp]
theorem seconds_string (content other : List Char) :
  seconds leaf (.string content other :: rest) = '"' :: (other ++ '"' :: seconds leaf rest)
  := by
  simp [seconds, second, Lexeme.chars]

@[simp]
theorem seconds_exchanged (l : Literal) (m : β) :
  seconds leaf (.exchanged l m :: rest) = (leaf m).chars ++ seconds leaf rest
  := rfl

end

/-- Every string of the first text is closed, and where it is a string of JSON so is the other one;
and no literal that is exchanged reaches beyond its place.  `before` is the character in front. -/
inductive Steady : Option Char → List (Twin β) → Prop where
  | nil (before : Option Char) : Steady before []
  | shared {before : Option Char} {c : Char} {rest : List (Twin β)} (plain : c ≠ '"')
    (later : Steady (some c) rest) : Steady before (.shared c :: rest)
  | string {before : Option Char} {content other : List Char} {rest : List (Twin β)}
    (closed : Lexeme.isContent content = true)
    (spelled : ∀ pieces, contentChars pieces = content → ∃ others, contentChars others = other)
    (later : Steady (some '"') rest) : Steady before (.string content other :: rest)
  | exchanged {before : Option Char} {l : Literal} {m : β} {rest : List (Twin β)}
    (stays : l.value.reachesOut before (firsts rest) = false)
    (later : Steady l.lexeme.chars.getLast? rest) : Steady before (.exchanged l m :: rest)

/-- A reader of the first text who has `left` in front of him stands at `back` in the row, and what
lies behind him has been written as `written` the second time. -/
structure Stands (leaf : β → Lexeme) (row back : List (Twin β)) (written left : List Char) :
    Prop where
  left : firsts back = left
  written : seconds leaf row = written ++ seconds leaf back
  steady : ∃ before, Steady before back

theorem Steady.stands {before : Option Char} {row : List (Twin β)} (steady : Steady before row)
    (leaf : β → Lexeme) :
  Stands leaf row row [] (firsts row)
  where
  left := rfl
  written := rfl
  steady := ⟨before, steady⟩

/-! ### Single characters -/

/-- A character that starts a literal. -/
def startsLiteral (c : Char) : Bool :=
  c == '"' || Lexeme.startsNumber c || c == 't' || c == 'f' || c == 'n'

theorem startsLiteral_of_chars {l : Literal} {c : Char} {tail : List Char}
    (shape : l.lexeme.chars = c :: tail) :
  startsLiteral c = true
  := by
  cases l with
  | null =>
    obtain rfl : 'n' = c := (List.cons.inj shape).1
    rfl
  | boolean b =>
    cases b with
    | false =>
      obtain rfl : 'f' = c := (List.cons.inj shape).1
      rfl
    | true =>
      obtain rfl : 't' = c := (List.cons.inj shape).1
      rfl
  | number n =>
    obtain ⟨d, rest, spelled, starts⟩ := Numeral.exists_cons_spelled n.valid n.letter
    obtain rfl : d = c := (List.cons.inj (spelled.symm.trans shape)).1
    have starts : Lexeme.startsNumber d = true := by simpa [Lexeme.startsNumber] using starts
    simp [startsLiteral, starts]
  | string pieces =>
    obtain rfl : '"' = c := (List.cons.inj shape).1
    rfl

theorem startsLiteral_of_isSpace {c : Char} (h : isSpace c = true) :
  startsLiteral c = false
  := by
  simp only [isSpace, Bool.or_eq_true, beq_iff_eq] at h
  rcases h with ((rfl | rfl) | rfl) | rfl <;> rfl

/-- A literal that starts with a quote is a string. -/
theorem exists_pieces_of_quote {l : Literal} {tail : List Char}
    (shape : l.lexeme.chars = '"' :: tail) :
  ∃ pieces, l = .string pieces
  := by
  cases l with
  | null => exact absurd (List.cons.inj shape).1 (by decide)
  | boolean b => cases b <;> exact absurd (List.cons.inj shape).1 (by decide)
  | number n =>
    have continues : Lexeme.continuesNumber '"' = true := by
      apply Numeral.continuesNumber_of_mem_spelled n.valid n.isLetter
      rw [show n.numeral.spelled n.letter = '"' :: tail from shape]
      apply List.mem_cons_self
    contradiction
  | string pieces => exact ⟨pieces, rfl⟩

/-- A literal that starts like a number is one. -/
theorem exists_number_of_continues {l : Literal} {c : Char} {tail : List Char}
    (shape : l.lexeme.chars = c :: tail) (continues : Lexeme.continuesNumber c = true) :
  ∃ n, l = .number n
  := by
  cases l with
  | null =>
    obtain rfl : 'n' = c := (List.cons.inj shape).1
    contradiction
  | boolean b =>
    cases b with
    | false =>
      obtain rfl : 'f' = c := (List.cons.inj shape).1
      contradiction
    | true =>
      obtain rfl : 't' = c := (List.cons.inj shape).1
      contradiction
  | number n => exact ⟨n, rfl⟩
  | string pieces =>
    obtain rfl : '"' = c := (List.cons.inj shape).1
    contradiction

/-- Contents that are closed at the same place are the same. -/
theorem content_unique {content other rest tail : List Char}
    (closed : Lexeme.isContent content = true) (closed' : Lexeme.isContent other = true)
    (same : content ++ '"' :: rest = other ++ '"' :: tail) :
  content = other ∧ rest = tail
  := by
  have split := Lexeme.closeString_append closed rest
  rw [same, Lexeme.closeString_append closed' tail] at split
  obtain ⟨rfl, rfl⟩ := Prod.mk.inj (Option.some.inj split)
  exact ⟨rfl, rfl⟩

/-- Literals at the same place are the same. -/
theorem literal_unique {l m : Literal} {rest tail : List Char}
    (ends : ∀ n, l = .number n → Numeral.Ends rest) (ends' : Numeral.Ends tail)
    (same : l.lexeme.chars ++ rest = m.lexeme.chars ++ tail) :
  l.lexeme.chars = m.lexeme.chars ∧ rest = tail
  := by
  obtain ⟨_, q, reads, -⟩ := readLeaf_literal l .start ends
  obtain ⟨_, q', reads', -⟩ := readLeaf_literal m .start fun _ _ => ends'
  rw [same, reads'] at reads
  obtain ⟨-, left⟩ := Prod.mk.inj (Except.ok.inj reads)
  obtain ⟨-, rfl⟩ := Rest.mk.inj left
  exact ⟨List.append_cancel_right same, rfl⟩

/-- A number that does not reach beyond its place has no characters of numbers beside it. -/
theorem reachesOut_number_eq_false_iff {before : Option Char} {n : Number} {behind : List Char} :
  (Value.number n).reachesOut before behind = false
    ↔ (∀ c ∈ before, Lexeme.continuesNumber c = false) ∧ Numeral.Ends behind
  := by
  rw [Value.reachesOut, Bool.or_eq_false_iff, Option.any_eq_false, Option.any_eq_false]
  simp [Numeral.Ends]

/-! ### Following the first text -/

section

variable {leaf : β → Lexeme} {row mid : List (Twin β)} {written left : List Char}

namespace Stands

/-- A character that starts no literal is shared. -/
theorem cons {c : Char} (h : Stands leaf row mid written (c :: left))
    (single : startsLiteral c = false) :
  ∃ back, Stands leaf row back (written ++ [c]) left
  := by
  obtain ⟨before, steady⟩ := h.steady
  have text := h.left
  cases steady with
  | nil => contradiction
  | @shared _ d rest plain later =>
    obtain ⟨rfl, same⟩ := List.cons.inj text
    exact ⟨rest, same, by simp [h.written], _, later⟩
  | string closed spelled later =>
    obtain rfl : '"' = c := (List.cons.inj text).1
    contradiction
  | @exchanged _ l m rest stays later =>
    obtain ⟨d, inner, shape, -⟩ := l.exists_cons_chars
    have starts := startsLiteral_of_chars shape
    rw [firsts_exchanged, shape] at text
    obtain rfl : d = c := (List.cons.inj text).1
    rw [starts] at single
    contradiction

theorem append {cs : List Char} (h : Stands leaf row mid written (cs ++ left))
    (single : ∀ c ∈ cs, startsLiteral c = false) :
  ∃ back, Stands leaf row back (written ++ cs) left
  := by
  induction cs generalizing mid written with
  | nil => exact ⟨mid, by simpa using h⟩
  | cons c cs ih =>
    rw [List.forall_mem_cons] at single
    obtain ⟨next, h⟩ := h.cons single.1
    simpa using ih h single.2

theorem blanks (blanks : Blanks) (h : Stands leaf row mid written (blanks.chars ++ left)) :
  ∃ back, Stands leaf row back (written ++ blanks.chars) left
  := h.append fun c mem => startsLiteral_of_isSpace (blanks.blank c mem)

/-- The string of a key is a string of both texts: a string that is exchanged has no colon behind
it. -/
theorem key {pieces : List Piece}
    (h : Stands leaf row mid written ((Lexeme.quoted (contentChars pieces)).chars ++ left))
    (colon : (left.dropWhile isSpace).head? = some ':') (ends : Numeral.Ends left) :
  ∃ others back, Stands leaf row back (written ++ (Lexeme.quoted (contentChars others)).chars) left
  := by
  obtain ⟨before, steady⟩ := h.steady
  have text := h.left
  cases steady with
  | nil => contradiction
  | shared plain later => exact absurd (List.cons.inj text).1 plain
  | @string _ content other rest closed spelled later =>
    have inner : content ++ '"' :: firsts rest = contentChars pieces ++ '"' :: left := by
      simpa [Lexeme.chars] using text
    obtain ⟨rfl, same⟩ := content_unique closed (isContent_pieces pieces) inner
    obtain ⟨others, rfl⟩ := spelled pieces rfl
    exact ⟨others, rest, same, by simp [h.written, Lexeme.chars], _, later⟩
  | @exchanged _ l m rest stays later =>
    obtain ⟨d, inner, shape, -⟩ := l.exists_cons_chars
    rw [firsts_exchanged] at text
    obtain rfl : d = '"' := by
      rw [shape] at text
      exact (List.cons.inj text).1
    obtain ⟨others, rfl⟩ := exists_pieces_of_quote shape
    have noNumber : ∀ n, Literal.string others = .number n → Numeral.Ends (firsts rest) := by
      rintro n ⟨⟩
    obtain ⟨-, same⟩ := literal_unique (m := .string pieces) noNumber ends text
    simp [Value.reachesOut, Literal.value, same, colon] at stays

/-- A literal of the first text is a leaf of the second one, or it starts with a shared
character. -/
theorem leaf_or_shared (literals : ∀ l : Literal, ∃ m, (leaf m).chars = l.lexeme.chars)
    {l : Literal} (h : Stands leaf row mid written (l.lexeme.chars ++ left))
    (ends : Numeral.Ends left) :
  (∃ m back, Stands leaf row back (written ++ (leaf m).chars) left)
    ∨ ∃ c letters rest, l.lexeme.chars = c :: letters ∧ c ≠ '"' ∧ Steady (some c) rest
      ∧ Stands leaf row rest (written ++ [c]) (letters ++ left)
  := by
  obtain ⟨c, letters, shape, -⟩ := l.exists_cons_chars
  obtain ⟨before, steady⟩ := h.steady
  have text := h.left
  cases steady with
  | nil =>
    rw [shape] at text
    contradiction
  | @shared _ d rest plain later =>
    rw [shape] at text
    obtain ⟨rfl, same⟩ := List.cons.inj text
    exact .inr ⟨d, letters, rest, shape, plain, later, same, by simp [h.written], _, later⟩
  | @string _ content other rest closed spelled later =>
    rw [firsts_string] at text
    have quote : '"' = c := by
      rw [shape] at text
      exact (List.cons.inj text).1
    obtain ⟨pieces, rfl⟩ := exists_pieces_of_quote (quote ▸ shape)
    have inner : content ++ '"' :: firsts rest = contentChars pieces ++ '"' :: left := by
      simpa [Literal.lexeme, Lexeme.chars] using text
    obtain ⟨rfl, same⟩ := content_unique closed (isContent_pieces pieces) inner
    obtain ⟨others, rfl⟩ := spelled pieces rfl
    obtain ⟨m, spells⟩ := literals (.string others)
    refine .inl ⟨m, rest, same, ?_, _, later⟩
    rw [h.written, spells, seconds_string]
    simp [Literal.lexeme, Lexeme.chars]
  | @exchanged _ l' m rest stays later =>
    have whole : ∀ n, l' = .number n → Numeral.Ends (firsts rest) := by
      rintro n rfl
      exact (reachesOut_number_eq_false_iff.1 stays).2
    obtain ⟨-, same⟩ := literal_unique whole ends text
    exact .inl ⟨m, rest, same, by simp [h.written], _, later⟩

/-- Behind a shared character of a number, the rest of a number is shared: no number that is
exchanged stands there. -/
theorem digits {c : Char} {cs : List Char} (h : Stands leaf row mid written (cs ++ left))
    (steady : Steady (some c) mid) (begun : Lexeme.continuesNumber c = true)
    (continues : ∀ d ∈ cs, Lexeme.continuesNumber d = true) :
  ∃ back, Stands leaf row back (written ++ cs) left
  := by
  induction cs generalizing c mid written with
  | nil => exact ⟨mid, by simpa using h⟩
  | cons d cs ih =>
    rw [List.forall_mem_cons] at continues
    have text := h.left
    cases steady with
    | nil => contradiction
    | @shared _ e rest plain later =>
      obtain ⟨rfl, same⟩ := List.cons.inj text
      have next : Stands leaf row rest (written ++ [e]) (cs ++ left) :=
        ⟨same, by simp [h.written], _, later⟩
      simpa using ih next later continues.1 continues.2
    | string closed spelled later =>
      obtain rfl : '"' = d := (List.cons.inj text).1
      exact absurd continues.1 (by decide)
    | @exchanged _ l m rest stays later =>
      obtain ⟨e, inner, shape, -⟩ := l.exists_cons_chars
      rw [firsts_exchanged, shape] at text
      obtain rfl : e = d := (List.cons.inj text).1
      obtain ⟨n, rfl⟩ := exists_number_of_continues shape continues.1
      have fresh := (reachesOut_number_eq_false_iff.1 stays).1 c rfl
      rw [begun] at fresh
      contradiction

/-- A literal of the first text becomes a leaf of the second one. -/
theorem literal (literals : ∀ l : Literal, ∃ m, (leaf m).chars = l.lexeme.chars) {l : Literal}
    (h : Stands leaf row mid written (l.lexeme.chars ++ left)) (ends : Numeral.Ends left) :
  ∃ m back, Stands leaf row back (written ++ (leaf m).chars) left
  := by
  rcases h.leaf_or_shared literals ends with found | ⟨c, letters, rest, shape, plain, later, next⟩
  · exact found
  have word {w : List Char} (letter : l.lexeme.chars = w)
      (single : w.tail.any startsLiteral = false) :
      ∃ back, Stands leaf row back (written ++ [c] ++ letters) left := by
    apply next.append
    rw [← letter, shape] at single
    simpa using single
  have whole : ∃ back, Stands leaf row back (written ++ [c] ++ letters) left := by
    cases l with
    | null => exact word rfl (by decide)
    | boolean b => cases b <;> exact word rfl (by decide)
    | number n =>
      have continues : ∀ d ∈ c :: letters, Lexeme.continuesNumber d = true := by
        rw [← shape]
        exact Numeral.continuesNumber_of_mem_spelled n.valid n.isLetter
      rw [List.forall_mem_cons] at continues
      exact next.digits later continues.1 continues.2
    | string pieces => exact absurd (List.cons.inj shape).1.symm plain
  obtain ⟨m, spells⟩ := literals l
  obtain ⟨back, stands⟩ := whole
  refine ⟨m, back, ?_⟩
  rw [spells, shape]
  simpa using stands

/-- A label of the first text becomes a label of the second one. -/
theorem label (label : Label) (h : Stands leaf row mid written (label.chars ++ left)) :
  ∃ (other : Label) (back : _), Stands leaf row back (written ++ other.chars) left
  := by
  obtain ⟨before, pieces, beforeColon, afterColon⟩ := label
  have h : Stands leaf row mid written (before.chars ++ ((Lexeme.quoted (contentChars pieces)).chars
      ++ (beforeColon.chars ++ ':' :: (afterColon.chars ++ left)))) := by
    simpa [Label.chars, Lexeme.chars] using h
  have colon : ((beforeColon.chars ++ ':' :: (afterColon.chars ++ left)).dropWhile isSpace).head?
      = some ':' := by
    rw [List.dropWhile_append_of_pos beforeColon.blank]
    rfl
  obtain ⟨_, h⟩ := h.blanks
  obtain ⟨key, _, h⟩ := h.key colon (Numeral.ends_blanks _ (Numeral.ends_cons rfl _))
  obtain ⟨_, h⟩ := h.blanks
  obtain ⟨_, h⟩ := h.cons rfl
  obtain ⟨back, h⟩ := h.blanks
  exact ⟨⟨before, key, beforeColon, afterColon⟩, back, by
    simpa [Label.chars, Lexeme.chars] using h⟩

end Stands

end

end Twin

/-! ### The outline of the second text -/

namespace Outline

variable {β : Type} {leaf : β → Lexeme} {row : List (Twin β)}

mutual

/-- A part of the first text becomes a part of the second one, with as many brackets open. -/
theorem exchange (literals : ∀ l : Literal, ∃ m, (leaf m).chars = l.lexeme.chars) :
    ∀ (t : Outline Literal) {mid : List (Twin β)} {written left : List Char},
      Twin.Stands leaf row mid written (t.chars Literal.lexeme ++ left) → Numeral.Ends left →
      ∃ u : Outline β, u.depth = t.depth
        ∧ ∃ back, Twin.Stands leaf row back (written ++ u.chars leaf) left
  | .leaf l, mid, written, left, h, ends => by
    rw [chars_leaf] at h
    obtain ⟨m, back, h⟩ := h.literal literals ends
    exact ⟨.leaf m, rfl, back, by simpa using h⟩
  | .emptyArray blanks, mid, written, left, h, _ => by
    simp only [chars_emptyArray, List.cons_append, List.append_assoc, List.nil_append] at h
    obtain ⟨_, h⟩ := h.cons rfl
    obtain ⟨_, h⟩ := h.blanks
    obtain ⟨back, h⟩ := h.cons rfl
    exact ⟨.emptyArray blanks, rfl, back, by simpa using h⟩
  | .array items, mid, written, left, h, _ => by
    simp only [chars_array, List.cons_append, List.append_assoc, List.nil_append] at h
    obtain ⟨_, h⟩ := h.cons rfl
    obtain ⟨others, deep, _, h⟩ := items.exchange literals h (Numeral.ends_cons rfl _)
    obtain ⟨back, h⟩ := h.cons rfl
    exact ⟨.array others, congrArg (· + 1) deep, back, by simpa using h⟩
  | .emptyObject blanks, mid, written, left, h, _ => by
    simp only [chars_emptyObject, List.cons_append, List.append_assoc, List.nil_append] at h
    obtain ⟨_, h⟩ := h.cons rfl
    obtain ⟨_, h⟩ := h.blanks
    obtain ⟨back, h⟩ := h.cons rfl
    exact ⟨.emptyObject blanks, rfl, back, by simpa using h⟩
  | .object members, mid, written, left, h, _ => by
    simp only [chars_object, List.cons_append, List.append_assoc, List.nil_append] at h
    obtain ⟨_, h⟩ := h.cons rfl
    obtain ⟨others, deep, _, h⟩ := members.exchange literals h (Numeral.ends_cons rfl _)
    obtain ⟨back, h⟩ := h.cons rfl
    exact ⟨.object others, congrArg (· + 1) deep, back, by simpa using h⟩

theorem Items.exchange (literals : ∀ l : Literal, ∃ m, (leaf m).chars = l.lexeme.chars) :
    ∀ (items : Items Literal) {mid : List (Twin β)} {written left : List Char},
      Twin.Stands leaf row mid written (items.chars Literal.lexeme ++ left) → Numeral.Ends left →
      ∃ others : Items β, others.depth = items.depth
        ∧ ∃ back, Twin.Stands leaf row back (written ++ others.chars leaf) left
  | .last before value after, mid, written, left, h, ends => by
    simp only [Items.chars_last, List.append_assoc] at h
    obtain ⟨_, h⟩ := h.blanks
    obtain ⟨u, deep, _, h⟩ := value.exchange literals h (Numeral.ends_blanks after ends)
    obtain ⟨back, h⟩ := h.blanks
    exact ⟨.last before u after, deep, back, by simpa using h⟩
  | .cons before value after rest, mid, written, left, h, ends => by
    simp only [Items.chars_cons, List.append_assoc, List.cons_append] at h
    obtain ⟨_, h⟩ := h.blanks
    obtain ⟨u, deep, _, h⟩ :=
      value.exchange literals h (Numeral.ends_blanks after (Numeral.ends_cons rfl _))
    obtain ⟨_, h⟩ := h.blanks
    obtain ⟨_, h⟩ := h.cons rfl
    obtain ⟨others, deepRest, back, h⟩ := rest.exchange literals h ends
    exact ⟨.cons before u after others, congrArg₂ max deep deepRest, back, by simpa using h⟩

theorem Members.exchange (literals : ∀ l : Literal, ∃ m, (leaf m).chars = l.lexeme.chars) :
    ∀ (members : Members Literal) {mid : List (Twin β)} {written left : List Char},
      Twin.Stands leaf row mid written (members.chars Literal.lexeme ++ left) →
      Numeral.Ends left →
      ∃ others : Members β, others.depth = members.depth
        ∧ ∃ back, Twin.Stands leaf row back (written ++ others.chars leaf) left
  | .last label value after, mid, written, left, h, ends => by
    simp only [Members.chars_last, List.append_assoc] at h
    obtain ⟨key, _, h⟩ := h.label
    obtain ⟨u, deep, _, h⟩ := value.exchange literals h (Numeral.ends_blanks after ends)
    obtain ⟨back, h⟩ := h.blanks
    exact ⟨.last key u after, deep, back, by simpa using h⟩
  | .cons label value after rest, mid, written, left, h, ends => by
    simp only [Members.chars_cons, List.append_assoc, List.cons_append] at h
    obtain ⟨key, _, h⟩ := h.label
    obtain ⟨u, deep, _, h⟩ :=
      value.exchange literals h (Numeral.ends_blanks after (Numeral.ends_cons rfl _))
    obtain ⟨_, h⟩ := h.blanks
    obtain ⟨_, h⟩ := h.cons rfl
    obtain ⟨others, deepRest, back, h⟩ := rest.exchange literals h ends
    exact ⟨.cons key u after others, congrArg₂ max deep deepRest, back, by simpa using h⟩

end

end Outline

theorem Twin.eq_nil_of_firsts {β : Type} {row : List (Twin β)} (nothing : firsts row = []) :
  row = []
  := by
  cases row with
  | nil => rfl
  | cons twin rest =>
    cases twin with
    | shared c => contradiction
    | string content other => contradiction
    | exchanged l m =>
      obtain ⟨c, tail, shape, -⟩ := l.exists_cons_chars
      rw [firsts_exchanged, shape] at nothing
      contradiction

/-- If the first text of a steady row is one of JSON, the second one has an outline. -/
theorem Sheet.exchange {β : Type} {leaf : β → Lexeme} {row : List (Twin β)}
    (literals : ∀ l : Literal, ∃ m, (leaf m).chars = l.lexeme.chars) (t : Sheet Literal)
    (steady : Twin.Steady none row) (text : Twin.firsts row = t.chars Literal.lexeme) :
  ∃ u : Sheet β, u.root.depth = t.root.depth ∧ u.chars leaf = Twin.seconds leaf row
  := by
  have ends : Numeral.Ends (t.after.chars ++ []) := by
    apply Numeral.ends_blanks
    rintro c ⟨⟩
  have h := steady.stands leaf
  rw [text, Sheet.chars_eq, ← List.append_nil t.after.chars] at h
  obtain ⟨_, h⟩ := h.blanks
  obtain ⟨root, deep, _, h⟩ := t.root.exchange literals h ends
  obtain ⟨back, h⟩ := h.blanks
  obtain rfl : back = [] := Twin.eq_nil_of_firsts h.left
  refine ⟨⟨t.before, root, t.after⟩, deep, ?_⟩
  rw [Sheet.chars_eq, h.written]
  simp [Twin.seconds]

/-! ### Rows that are written twice -/

/-- A part of a text is written twice, with `before` in front of it and `behind` behind it the first
time: as the same characters, as two strings, or as a literal that stays in its place and a leaf
that stands for it. -/
inductive Twice {β : Type} (leaf : β → Lexeme) (before behind : List Char) :
    List Char → List Char → Prop where
  | same {cs : List Char} (noQuote : '"' ∉ cs) : Twice leaf before behind cs cs
  | string {content other : List Char} (closed : Lexeme.isContent content = true)
    (spelled : ∀ pieces, contentChars pieces = content → ∃ others, contentChars others = other) :
    Twice leaf before behind (Lexeme.quoted content).chars (Lexeme.quoted other).chars
  | exchanged {l : Literal} {m : β}
    (stays : l.value.reachesOut before.getLast? behind = false) :
    Twice leaf before behind l.lexeme.chars (leaf m).chars

section

variable {α β : Type} {leaf : β → Lexeme} {first second : α → List Char}

theorem steady_shared {before cs : List Char} {row : List (Twin β)} (noQuote : '"' ∉ cs)
    (later : Twin.Steady (before ++ cs).getLast? row) :
  Twin.Steady before.getLast? (cs.map .shared ++ row)
  := by
  induction cs generalizing before with
  | nil => simpa using later
  | cons c cs ih =>
    rw [List.mem_cons, not_or] at noQuote
    refine .shared (Ne.symm noQuote.1) ?_
    rw [← List.getLast?_concat]
    exact ih noQuote.2 (by simpa using later)

/-- One part more in front of a row. -/
theorem Twice.exists_twins {before cs ds : List Char} {row : List (Twin β)}
    (twice : Twice leaf before (Twin.firsts row) cs ds)
    (later : Twin.Steady (before ++ cs).getLast? row) :
  ∃ twins : List (Twin β), Twin.Steady before.getLast? twins
    ∧ Twin.firsts twins = cs ++ Twin.firsts row
    ∧ Twin.seconds leaf twins = ds ++ Twin.seconds leaf row
  := by
  cases twice with
  | same noQuote =>
    refine ⟨cs.map .shared ++ row, steady_shared noQuote later, ?_, ?_⟩
    · simp [Twin.firsts, Twin.first, List.flatMap_map]
    · simp [Twin.seconds, Twin.second, List.flatMap_map]
  | @string content other closed spelled =>
    refine ⟨.string content other :: row, .string closed spelled ?_, ?_, ?_⟩
    · rwa [Lexeme.chars, ← List.append_assoc, List.getLast?_concat] at later
    · simp [Lexeme.chars]
    · simp [Lexeme.chars]
  | @exchanged l m stays =>
    refine ⟨.exchanged l m :: row, .exchanged stays ?_, rfl, rfl⟩
    obtain ⟨c, tail, shape, -⟩ := l.exists_cons_chars
    rwa [List.getLast?_append_of_ne_nil before (by simp [shape])] at later

/-- A row whose parts are written twice is the row of its twins. -/
theorem exists_twins {row : List α}
    (twice : ∀ front part back, row = front ++ part :: back →
      Twice leaf (front.flatMap first) (back.flatMap first) (first part) (second part)) :
  ∃ twins : List (Twin β), Twin.Steady none twins ∧ Twin.firsts twins = row.flatMap first
    ∧ Twin.seconds leaf twins = row.flatMap second
  := by
  suffices behind : ∀ back front, row = front ++ back →
      ∃ twins : List (Twin β), Twin.Steady (front.flatMap first).getLast? twins
        ∧ Twin.firsts twins = back.flatMap first
        ∧ Twin.seconds leaf twins = back.flatMap second from behind row [] rfl
  intro back
  induction back with
  | nil => exact fun _ _ => ⟨[], .nil _, rfl, rfl⟩
  | cons part back ih =>
    intro front split
    obtain ⟨twins, steady, firsts, seconds⟩ := ih (front ++ [part]) (by simpa using split)
    have here := twice front part back split
    rw [← firsts] at here
    obtain ⟨more, steadyMore, firstsMore, secondsMore⟩ :=
      here.exists_twins (by simpa using steady)
    refine ⟨more, steadyMore, ?_, ?_⟩
    · rw [firstsMore, firsts, List.flatMap_cons]
    · rw [secondsMore, seconds, List.flatMap_cons]

/-- **Exchange.**  If the first text of a row is one of JSON, and each part is written the second
time as it was, as another string, or as a leaf for a literal that stays in its place, then the
second text has an outline. -/
theorem exists_sheet_of_exchange {row : List α} {value : Value}
    (literals : ∀ l : Literal, ∃ m, (leaf m).chars = l.lexeme.chars)
    (twice : ∀ front part back, row = front ++ part :: back →
      Twice leaf (front.flatMap first) (back.flatMap first) (first part) (second part))
    (accepted : (Document.ofChars (row.flatMap first)).toValue = .ok value) :
  ∃ u : Sheet β, u.root.depth ≤ depthLimit ∧ u.chars leaf = row.flatMap second
  := by
  obtain ⟨t, text, -, shallow⟩ := exists_sheet_of_toValue accepted
  obtain ⟨twins, steady, firsts, seconds⟩ := exists_twins twice
  obtain ⟨u, deep, written⟩ := t.exchange literals steady (firsts.trans text.symm)
  exact ⟨u, deep ▸ shallow, written.trans seconds⟩

end

end ConfigTemplate.Json
