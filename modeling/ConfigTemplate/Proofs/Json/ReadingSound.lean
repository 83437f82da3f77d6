import ConfigTemplate.Proofs.Json.ReadingComplete

/-!
# The reader accepts nothing but JSON texts

A text that is read to its end without a fault is laid out as an outline, and its value is the one
that the outline shows.  The induction is over the fuel of the readers: what each of them takes off
the front of a text has the form of a part of an outline.
-/

namespace ConfigTemplate.Json

/-! ### Blanks and leaves -/

/-- What is skipped is blanks. -/
theorem exists_blanks_of_skipSpace (p : Position) (cs : List Char) :
  ∃ blanks : Blanks, cs = blanks.chars ++ (skipSpace p cs).chars
  := by
  induction cs generalizing p with
  | nil => exact ⟨.none, rfl⟩
  | cons c rest ih =>
    cases blank : isSpace c with
    | false => exact ⟨.none, by rw [skipSpace_cons p blank]; rfl⟩
    | true =>
      obtain ⟨blanks, shape⟩ := ih (p.after c)
      have all : ∀ d ∈ c :: blanks.chars, isSpace d = true := by
        intro d mem
        rcases List.mem_cons.1 mem with rfl | mem
        · exact blank
        · exact blanks.blank d mem
      use ⟨c :: blanks.chars, all⟩
      rw [skipSpace, if_pos blank, List.cons_append, ← shape]

theorem eq_append_of_readWord {p : Position} {letters cs : List Char} {left : Rest}
    (h : readWord p letters cs = .ok left) :
  cs = letters ++ left.chars
  := by
  fun_induction readWord p letters cs with
  | case1 p cs =>
    obtain rfl := Except.ok.inj h
    rfl
  | case2 => simp at h
  | case3 p letter letters c rest same ih =>
    rw [beq_iff_eq] at same
    rw [same, List.cons_append, ← ih h]
  | case4 => simp at h

/-- What is read as a leaf is a literal. -/
theorem exists_literal_of_readLeaf {p : Position} {cs : List Char} {leaf : Leaf} {left : Rest}
    (h : readLeaf p cs = .ok (leaf, left)) :
  ∃ l : Literal, cs = l.lexeme.chars ++ left.chars ∧ l.value = leaf.toValue
  := by
  rw [readLeaf.eq_def] at h
  split at h
  · simp at h
  · next rest =>
    obtain ⟨_, reads, same⟩ := map_eq_ok h
    obtain ⟨rfl, rfl⟩ := Prod.mk.inj same
    refine ⟨.null, ?_, rfl⟩
    rw [eq_append_of_readWord reads]
    simp [Literal.lexeme, Lexeme.chars]
  · next rest =>
    obtain ⟨_, reads, same⟩ := map_eq_ok h
    obtain ⟨rfl, rfl⟩ := Prod.mk.inj same
    refine ⟨.boolean true, ?_, rfl⟩
    rw [eq_append_of_readWord reads]
    simp [Literal.lexeme, Lexeme.chars]
  · next rest =>
    obtain ⟨_, reads, same⟩ := map_eq_ok h
    obtain ⟨rfl, rfl⟩ := Prod.mk.inj same
    refine ⟨.boolean false, ?_, rfl⟩
    rw [eq_append_of_readWord reads]
    simp [Literal.lexeme, Lexeme.chars]
  · next rest =>
    obtain ⟨_, reads, same⟩ := map_eq_ok h
    obtain ⟨rfl, rfl⟩ := Prod.mk.inj same
    obtain ⟨pieces, shape, content⟩ := exists_pieces_of_readString reads
    refine ⟨.string pieces, ?_, ?_⟩
    · rw [shape]
      simp [Literal.lexeme, Lexeme.chars, contentChars]
    · rw [Literal.value, pieceText, content]
      rfl
  · next c rest _ _ _ _ =>
    split at h
    · obtain ⟨n, reads, behind⟩ := bind_eq_ok h
      split at behind
      · simp at behind
      · next number denotes =>
        obtain ⟨rfl, rfl⟩ := Prod.mk.inj (Except.ok.inj behind)
        obtain ⟨valid, letter, left, isLetter, shape⟩ := Numeral.exists_spelled_of_read reads
        refine ⟨.number ⟨n, letter, number, valid, isLetter, denotes⟩, ?_, rfl⟩
        simp only [shape, ← Numeral.length_spelled n letter, List.drop_left]
        rfl
    · simp at h

/-! ### One step of a reader -/

/-- What a reader of a value takes: blanks and an outline with the value. -/
def NodeTakes (depth : Nat) (cs : List Char) (value : Value) (rest : List Char) : Prop :=
  ∃ (blanks : Blanks) (t : Outline Literal),
    cs = blanks.chars ++ (t.chars Literal.lexeme ++ rest) ∧ t.literalValue = value
      ∧ t.depth ≤ depth

/-- What a reader of items takes, at the first item or behind one. -/
inductive ItemsTake (depth : Nat) : Bool → List Char → List Value → List Char → Prop where
  | closed (first : Bool) (blanks : Blanks) (rest : List Char) :
    ItemsTake depth first (blanks.chars ++ ']' :: rest) [] rest
  | first (items : Outline.Items Literal) (deep : items.depth ≤ depth) (rest : List Char) :
    ItemsTake depth true (items.chars Literal.lexeme ++ ']' :: rest)
      (items.values Literal.value pieceText) rest
  | comma (blanks : Blanks) (items : Outline.Items Literal) (deep : items.depth ≤ depth)
    (rest : List Char) :
    ItemsTake depth false (blanks.chars ++ ',' :: (items.chars Literal.lexeme ++ ']' :: rest))
      (items.values Literal.value pieceText) rest

/-- What a reader of members takes, at the first member or behind one. -/
inductive MembersTake (depth : Nat) :
    Bool → List Char → List (String × Value) → List Char → Prop where
  | closed (first : Bool) (blanks : Blanks) (rest : List Char) :
    MembersTake depth first (blanks.chars ++ '\x7d' :: rest) [] rest
  | first (members : Outline.Members Literal) (deep : members.depth ≤ depth) (rest : List Char) :
    MembersTake depth true (members.chars Literal.lexeme ++ '\x7d' :: rest)
      (members.entries Literal.value pieceText) rest
  | comma (blanks : Blanks) (members : Outline.Members Literal) (deep : members.depth ≤ depth)
    (rest : List Char) :
    MembersTake depth false
      (blanks.chars ++ ',' :: (members.chars Literal.lexeme ++ '\x7d' :: rest))
      (members.entries Literal.value pieceText) rest

/-- Blanks followed by blanks. -/
def Blanks.append (a b : Blanks) : Blanks where
  chars := a.chars ++ b.chars
  blank := by
    intro c mem
    rcases List.mem_append.1 mem with mem | mem
    · exact a.blank c mem
    · exact b.blank c mem

theorem Blanks.chars_append (a b : Blanks) :
  (a.append b).chars = a.chars ++ b.chars
  := rfl

section

variable {depth : Nat} {mid rest : List Char}

/-- An item with what is taken behind it is items. -/
theorem exists_items {values : List Value} (before : Blanks) {t : Outline Literal}
    (deep : t.depth ≤ depth) (later : ItemsTake depth false mid values rest) :
  ∃ items : Outline.Items Literal,
    before.chars ++ (t.chars Literal.lexeme ++ mid) = items.chars Literal.lexeme ++ ']' :: rest
      ∧ items.values Literal.value pieceText = t.literalValue :: values ∧ items.depth ≤ depth
  := by
  cases later with
  | closed _ blanks => exact ⟨.last before t blanks, by simp, rfl, deep⟩
  | comma blanks items deeper =>
    exact ⟨.cons before t blanks items, by simp, rfl, Nat.max_le.2 ⟨deep, deeper⟩⟩

/-- Blanks may stand in front of what is taken behind a member. -/
theorem MembersTake.blanks {entries : List (String × Value)} (gap : Blanks)
    (takes : MembersTake depth false mid entries rest) :
  MembersTake depth false (gap.chars ++ mid) entries rest
  := by
  cases takes with
  | closed _ blanks =>
    rw [← List.append_assoc, ← Blanks.chars_append]
    apply MembersTake.closed
  | comma blanks members deep =>
    rw [← List.append_assoc, ← Blanks.chars_append]
    apply MembersTake.comma _ members deep

/-- A member with what is taken behind it is members. -/
theorem exists_members {entries : List (String × Value)} (label : Label) {t : Outline Literal}
    (deep : t.depth ≤ depth) (later : MembersTake depth false mid entries rest) :
  ∃ members : Outline.Members Literal,
    label.chars ++ (t.chars Literal.lexeme ++ mid)
        = members.chars Literal.lexeme ++ '\x7d' :: rest
      ∧ members.entries Literal.value pieceText
        = (pieceText label.key, t.literalValue) :: entries
      ∧ members.depth ≤ depth
  := by
  cases later with
  | closed _ blanks => exact ⟨.last label t blanks, by simp, rfl, deep⟩
  | comma blanks members deeper =>
    exact ⟨.cons label t blanks members, by simp, rfl, Nat.max_le.2 ⟨deep, deeper⟩⟩

end

/-- The next item starts where the reader stands, or behind a comma and blanks. -/
theorem eq_or_comma_of_nextItem {first : Bool} {here next : Rest}
    (h : nextItem first here = .ok next) :
  (first = true ∧ next = here)
    ∨ first = false ∧ ∃ blanks : Blanks, here.chars = ',' :: (blanks.chars ++ next.chars)
  := by
  cases first with
  | true => exact .inl ⟨rfl, (Except.ok.inj h).symm⟩
  | false =>
    refine .inr ⟨rfl, ?_⟩
    simp only [nextItem, Bool.false_eq_true, ↓reduceIte] at h
    split at h
    · next rest shape =>
      obtain ⟨blanks, behind⟩ := exists_blanks_of_skipSpace (here.position.after ',') rest
      split at h
      · simp at h
      · obtain rfl := Except.ok.inj h
        exact ⟨blanks, by rw [shape, ← behind]⟩
    · simp at h

theorem eq_or_comma_of_nextKey {first : Bool} {here next : Rest}
    (h : nextKey first here = .ok next) :
  (first = true ∧ next = here)
    ∨ first = false ∧ ∃ blanks : Blanks, here.chars = ',' :: (blanks.chars ++ next.chars)
  := by
  cases first with
  | true => exact .inl ⟨rfl, (Except.ok.inj h).symm⟩
  | false =>
    refine .inr ⟨rfl, ?_⟩
    simp only [nextKey, Bool.false_eq_true, ↓reduceIte] at h
    split at h
    · next rest shape =>
      obtain ⟨blanks, behind⟩ := exists_blanks_of_skipSpace (here.position.after ',') rest
      obtain rfl := Except.ok.inj h
      exact ⟨blanks, by rw [shape, ← behind]⟩
    · simp at h

/-- What is read as a key and a colon is a string, blanks and a colon. -/
theorem exists_label_of_readKey (before : Blanks) {here keyEnd colon : Rest}
    {content : List Char} (key : readKey here = .ok (content, keyEnd))
    (behind : behindColon keyEnd.skipSpace = .ok colon) (afterColon : Blanks) {rest : List Char}
    (shape : colon.chars = afterColon.chars ++ rest) :
  ∃ label : Label, before.chars ++ here.chars = label.chars ++ rest
    ∧ pieceText label.key = String.ofList content
  := by
  rw [readKey] at key
  split at key
  · simp at key
  · next tail opens =>
    obtain ⟨pieces, closed, spelled⟩ := exists_pieces_of_readString key
    obtain ⟨blanks, toColon⟩ := exists_blanks_of_skipSpace keyEnd.position keyEnd.chars
    rw [behindColon] at behind
    split at behind
    · next tail colonShape =>
      obtain rfl := Except.ok.inj behind
      refine ⟨⟨before, pieces, blanks, afterColon⟩, ?_, by rw [pieceText, spelled]⟩
      change (skipSpace _ _).chars = ':' :: tail at colonShape
      change tail = _ at shape
      rw [opens, closed, toColon, colonShape, shape]
      simp [Label.chars, contentChars]
    · simp at behind
    · simp at behind
  · simp at key
  · simp at key

/-! ### A part and what is taken behind it -/

section

variable {depth : Nat} {first : Bool} {mid rest : List Char} {here next : Rest}
  {t : Outline Literal}

theorem ItemsTake.cons {values : List Value} (takes : ItemsTake depth false mid values rest)
    (blanks : Blanks) (starts : nextItem first here = .ok next) {between : Blanks}
    (spelled : next.chars = between.chars ++ (t.chars Literal.lexeme ++ mid))
    (deep : t.depth ≤ depth) :
  ItemsTake depth first (blanks.chars ++ here.chars) (t.literalValue :: values) rest
  := by
  rcases eq_or_comma_of_nextItem starts with ⟨rfl, rfl⟩ | ⟨rfl, gap, comma⟩
  · obtain ⟨items, text, same, deep⟩ := exists_items (blanks.append between) deep takes
    rw [Blanks.chars_append, List.append_assoc] at text
    rw [spelled, text, ← same]
    apply ItemsTake.first items deep
  · obtain ⟨items, text, same, deep⟩ := exists_items (gap.append between) deep takes
    rw [Blanks.chars_append, List.append_assoc] at text
    rw [comma, spelled, text, ← same]
    apply ItemsTake.comma blanks items deep

theorem MembersTake.cons {entries : List (String × Value)}
    (takes : MembersTake depth false mid entries rest) (blanks : Blanks)
    (starts : nextKey first here = .ok next) {content : List Char} {keyEnd colon : Rest}
    (key : readKey next = .ok (content, keyEnd))
    (behind : behindColon keyEnd.skipSpace = .ok colon) {between : Blanks}
    (spelled : colon.chars = between.chars ++ (t.chars Literal.lexeme ++ mid))
    (deep : t.depth ≤ depth) :
  MembersTake depth first (blanks.chars ++ here.chars)
    ((String.ofList content, t.literalValue) :: entries) rest
  := by
  rcases eq_or_comma_of_nextKey starts with ⟨rfl, rfl⟩ | ⟨rfl, gap, comma⟩
  · obtain ⟨label, text, name⟩ := exists_label_of_readKey blanks key behind between spelled
    obtain ⟨members, whole, same, deep⟩ := exists_members label deep takes
    rw [text, whole, ← name, ← same]
    apply MembersTake.first members deep
  · obtain ⟨label, text, name⟩ := exists_label_of_readKey gap key behind between spelled
    obtain ⟨members, whole, same, deep⟩ := exists_members label deep takes
    rw [comma, text, whole, ← name, ← same]
    apply MembersTake.comma blanks members deep

end

/-! ### Whole texts -/

mutual

/-- What is read as a value has the form of an outline with that value. -/
theorem takes_of_readNode {depth : Nat} {p : Position} {cs : List Char} {node : Node}
    {left : Option Rest} {value : Value} :
    ∀ fuel, readNode fuel depth p cs = (node, left) → node.toValue = .ok value →
      ∃ r, left = some r ∧ NodeTakes depth cs value r.chars
  | 0, result, denotes => by
    obtain ⟨rfl, rfl⟩ := Prod.mk.inj result
    simp [Node.toValue] at denotes
  | fuel + 1, result, denotes => by
    rw [readNode.eq_def] at result
    obtain ⟨blanks, shape⟩ := exists_blanks_of_skipSpace p cs
    rw [shape]
    simp only at result
    split at result
    · obtain ⟨rfl, rfl⟩ := Prod.mk.inj result
      simp [Node.toValue] at denotes
    · obtain ⟨rfl, rfl⟩ := Prod.mk.inj result
      simp [Node.toValue] at denotes
    · next rest depth opens =>
      rcases step : readItems fuel depth true _ rest with ⟨items, left⟩
      rw [step] at result
      obtain ⟨rfl, rfl⟩ := Prod.mk.inj result
      obtain ⟨values, inner, rfl⟩ := map_eq_ok denotes
      obtain ⟨r, rfl, takes⟩ := takes_of_readItems fuel step inner
      refine ⟨r, rfl, ?_⟩
      rw [opens]
      cases takes with
      | closed _ inside => exact ⟨blanks, .emptyArray inside, by simp, rfl, by simp [Outline.depth]⟩
      | first items deep =>
        exact ⟨blanks, .array items, by simp, rfl, by simpa [Outline.depth] using deep⟩
    · next rest depth opens =>
      rcases step : readMembers fuel depth true _ rest with ⟨members, left⟩
      rw [step] at result
      obtain ⟨rfl, rfl⟩ := Prod.mk.inj result
      obtain ⟨entries, inner, rfl⟩ := map_eq_ok denotes
      obtain ⟨r, rfl, takes⟩ := takes_of_readMembers fuel step inner
      refine ⟨r, rfl, ?_⟩
      rw [opens]
      cases takes with
      | closed _ inside =>
        exact ⟨blanks, .emptyObject inside, by simp, rfl, by simp [Outline.depth]⟩
      | first members deep =>
        exact ⟨blanks, .object members, by simp, rfl, by simpa [Outline.depth] using deep⟩
    · split at result
      · obtain ⟨rfl, rfl⟩ := Prod.mk.inj result
        simp [Node.toValue] at denotes
      · split at result
        · next leaf r reads =>
          obtain ⟨rfl, rfl⟩ := Prod.mk.inj result
          obtain ⟨l, spelled, same⟩ := exists_literal_of_readLeaf reads
          refine ⟨r, rfl, blanks, .leaf l, ?_, ?_, Nat.zero_le _⟩
          · rw [spelled, Outline.chars_leaf]
          · rw [Node.toValue] at denotes
            exact same.trans (Except.ok.inj denotes)
        · obtain ⟨rfl, rfl⟩ := Prod.mk.inj result
          simp [Node.toValue] at denotes

/-- What is read as items has the form of items with those values. -/
theorem takes_of_readItems {depth : Nat} {first : Bool} {p : Position} {cs : List Char}
    {items : Items} {left : Option Rest} {values : List Value} :
    ∀ fuel, readItems fuel depth first p cs = (items, left) →
      Node.itemValues items = .ok values →
      ∃ r, left = some r ∧ ItemsTake depth first cs values r.chars
  | 0, result, denotes => by
    obtain ⟨rfl, rfl⟩ := Prod.mk.inj result
    simp [Node.itemValues] at denotes
  | fuel + 1, result, denotes => by
    rw [readItems_succ] at result
    obtain ⟨blanks, shape⟩ := exists_blanks_of_skipSpace p cs
    rw [shape]
    split at result
    · obtain ⟨rfl, rfl⟩ := Prod.mk.inj result
      simp [Node.itemValues] at denotes
    · next rest closes =>
      obtain ⟨rfl, rfl⟩ := Prod.mk.inj result
      obtain rfl := Except.ok.inj denotes
      rw [closes]
      exact ⟨_, rfl, .closed first blanks rest⟩
    · split at result
      · obtain ⟨rfl, rfl⟩ := Prod.mk.inj result
        simp [Node.itemValues] at denotes
      · next r starts =>
        split at result
        · next item step =>
          obtain ⟨rfl, rfl⟩ := Prod.mk.inj result
          obtain ⟨value, inner, behind⟩ := bind_eq_ok denotes
          simp [Node.itemValues] at behind
        · next item left step =>
          rcases others : readItems fuel depth false left.position left.chars with ⟨later, left'⟩
          rw [others] at result
          obtain ⟨rfl, rfl⟩ := Prod.mk.inj result
          obtain ⟨value, inner, behind⟩ := bind_eq_ok denotes
          obtain ⟨values, laterValues, same⟩ := bind_eq_ok behind
          obtain rfl := Except.ok.inj same
          obtain ⟨_, ⟨⟩, between, t, spelled, rfl, deep⟩ := takes_of_readNode fuel step inner
          obtain ⟨r', rfl, takes⟩ := takes_of_readItems fuel others laterValues
          exact ⟨r', rfl, takes.cons blanks starts spelled deep⟩

/-- What is read as members has the form of members with those keys and values. -/
theorem takes_of_readMembers {depth : Nat} {first : Bool} {p : Position} {cs : List Char}
    {members : Members} {left : Option Rest} {entries : List (String × Value)} :
    ∀ fuel, readMembers fuel depth first p cs = (members, left) →
      Node.memberValues members = .ok entries →
      ∃ r, left = some r ∧ MembersTake depth first cs entries r.chars
  | 0, result, denotes => by
    obtain ⟨rfl, rfl⟩ := Prod.mk.inj result
    simp [Node.memberValues] at denotes
  | fuel + 1, result, denotes => by
    rw [readMembers_succ] at result
    obtain ⟨blanks, shape⟩ := exists_blanks_of_skipSpace p cs
    rw [shape]
    split at result
    · obtain ⟨rfl, rfl⟩ := Prod.mk.inj result
      simp [Node.memberValues] at denotes
    · next rest closes =>
      obtain ⟨rfl, rfl⟩ := Prod.mk.inj result
      obtain rfl := Except.ok.inj denotes
      rw [closes]
      exact ⟨_, rfl, .closed first blanks rest⟩
    · split at result
      · obtain ⟨rfl, rfl⟩ := Prod.mk.inj result
        simp [Node.memberValues] at denotes
      · next content keyEnd key =>
        split at result
        · obtain ⟨rfl, rfl⟩ := Prod.mk.inj result
          simp [Node.memberValues, Node.toValue, bind, Except.bind] at denotes
        · next colon behind =>
          rcases step : readNode fuel depth colon.position colon.chars with ⟨node, left⟩
          rw [step] at result
          dsimp only at result
          split at result
          · obtain ⟨rfl, rfl⟩ := Prod.mk.inj result
            obtain ⟨value, inner, none⟩ := bind_eq_ok denotes
            simp [Node.memberValues] at none
          · next after ends =>
            rcases others : readMembers fuel depth false _ after.skipSpace.chars with
              ⟨later, left'⟩
            rw [others] at result
            obtain ⟨rfl, rfl⟩ := Prod.mk.inj result
            obtain ⟨value, inner, further⟩ := bind_eq_ok denotes
            obtain ⟨entries, laterEntries, same⟩ := bind_eq_ok further
            obtain rfl := Except.ok.inj same
            obtain ⟨r, rfl, between, t, spelled, rfl, deep⟩ := takes_of_readNode fuel step inner
            obtain rfl : r = after := Except.ok.inj ends
            obtain ⟨r', rfl, takes⟩ := takes_of_readMembers fuel others laterEntries
            refine ⟨r', rfl, ?_⟩
            obtain ⟨gap, toNext⟩ := exists_blanks_of_skipSpace r.position r.chars
            have takes := takes.blanks gap
            rw [Rest.skipSpace, ← toNext] at takes
            obtain ⟨here, starts, reads⟩ := bind_eq_ok key
            exact takes.cons blanks starts reads behind spelled deep

end

/-- What is read from a document is read from its root, and nothing follows that. -/
theorem eq_ok_of_readWith {α : Type} {read : Node → Except Fault α} {d : Document} {result : α}
    (h : d.readWith read = .ok result) :
  read d.root = .ok result ∧ d.surplus = none
  := by
  rw [Document.readWith] at h
  split at h
  · simp at h
  · simp at h
  · next result reads none =>
    exact ⟨reads.trans h, none⟩

/-- **Soundness.**  A text that has a value is laid out as an outline with that value. -/
theorem exists_sheet_of_toValue {cs : List Char} {value : Value}
    (h : (Document.ofChars cs).toValue = .ok value) :
  ∃ t : Sheet Literal, t.chars Literal.lexeme = cs ∧ t.root.literalValue = value
    ∧ t.root.depth ≤ depthLimit
  := by
  rcases step : readNode (2 * cs.length + 2) depthLimit .start cs with ⟨node, left⟩
  obtain ⟨inner, final⟩ := eq_ok_of_readWith h
  have root : (Document.ofChars cs).root = node := by
    rw [Document.ofChars, step]
    cases left with
    | none => rfl
    | some left =>
      dsimp only
      split
      · rfl
      · rfl
  rw [root] at inner
  obtain ⟨r, rfl, before, t, shape, same, deep⟩ := takes_of_readNode _ step inner
  rw [Document.ofChars, step] at final
  dsimp only at final
  split at final
  · next ends =>
    obtain ⟨after, behind⟩ := exists_blanks_of_skipSpace r.position r.chars
    rw [List.isEmpty_iff.1 ends, List.append_nil] at behind
    refine ⟨⟨before, t, after⟩, ?_, same, deep⟩
    rw [Sheet.chars_eq, shape, behind]
  · simp at final

end ConfigTemplate.Json
