import ConfigTemplate.Json.Reader
import ConfigTemplate.Proofs.Json.LaidOut

/-!
# The reader accepts every JSON text

A text that is laid out as an outline is read to its end, provided that its brackets are not nested
too deep, and what is read is laid out as the outline shows.  So the text has the value of the
outline.  The induction is over the outline; the fuel of the readers is measured by the characters
in front of them.
-/

namespace ConfigTemplate.Json

/-! ### Blanks -/

theorem skipSpace_append (blanks : Blanks) (p : Position) (cs : List Char) :
  ∃ q, skipSpace p (blanks.chars ++ cs) = skipSpace q cs
  := by
  obtain ⟨chars, blank⟩ := blanks
  induction chars generalizing p with
  | nil => exact ⟨p, rfl⟩
  | cons c rest ih =>
    obtain ⟨q, skips⟩ := ih (p.after c) fun d mem => blank d (List.mem_cons_of_mem c mem)
    use q
    simpa [skipSpace, blank c (by simp)] using skips

theorem skipSpace_cons (p : Position) {c : Char} (h : isSpace c = false) (rest : List Char) :
  skipSpace p (c :: rest) = ⟨p, c :: rest⟩
  := by
  simp [skipSpace, h]

/-- A character after blanks is reached. -/
theorem skipSpace_append_cons (blanks : Blanks) (p : Position) {c : Char}
    (h : isSpace c = false) (rest : List Char) :
  ∃ q, skipSpace p (blanks.chars ++ c :: rest) = ⟨q, c :: rest⟩
  := by
  obtain ⟨q, skips⟩ := skipSpace_append blanks p (c :: rest)
  exact ⟨q, skips.trans (skipSpace_cons q h rest)⟩

theorem continuesNumber_of_isSpace {c : Char} (h : isSpace c = true) :
  Lexeme.continuesNumber c = false
  := by
  simp only [isSpace, Bool.or_eq_true, beq_iff_eq] at h
  rcases h with ((rfl | rfl) | rfl) | rfl <;> rfl

theorem Numeral.ends_cons {c : Char} (h : Lexeme.continuesNumber c = false) (rest : List Char) :
  Numeral.Ends (c :: rest)
  := by
  rintro d ⟨⟩
  apply h

theorem Numeral.ends_blanks (blanks : Blanks) {rest : List Char} (ends : Numeral.Ends rest) :
  Numeral.Ends (blanks.chars ++ rest)
  := by
  obtain ⟨chars, blank⟩ := blanks
  cases chars with
  | nil => apply ends
  | cons c chars => apply ends_cons (continuesNumber_of_isSpace (blank c (by simp)))

/-! ### Leaves -/

theorem readWord_append (p : Position) (letters rest : List Char) :
  ∃ q, readWord p letters (letters ++ rest) = .ok ⟨q, rest⟩
  := by
  induction letters generalizing p with
  | nil => exact ⟨p, by simp [readWord]⟩
  | cons letter letters ih =>
    obtain ⟨q, reads⟩ := ih (p.after letter)
    exact ⟨q, by simpa [readWord] using reads⟩

/-- A numeral is read as a leaf. -/
theorem readLeaf_number (n : NumeralText) (p : Position) {rest : List Char}
    (ends : Numeral.Ends rest) :
  ∃ q, readLeaf p (n.chars ++ rest) = .ok (.number n.number, ⟨q, rest⟩)
  := by
  obtain ⟨c, tail, shape, first⟩ := Numeral.exists_cons_spelled n.valid n.letter
  have reads := Numeral.read_spelled n.valid n.isLetter ends p
  have length := Numeral.length_spelled n.numeral n.letter
  use p.afterAll ((n.chars ++ rest).take n.numeral.length)
  have isNumber : (c == '-' || c.isDigit) = true := by simpa using first
  have notLetter : c ≠ 'n' ∧ c ≠ 't' ∧ c ≠ 'f' ∧ c ≠ '"' := by
    refine ⟨?_, ?_, ?_, ?_⟩ <;> rintro rfl <;> revert isNumber <;> decide
  have shape' : n.chars ++ rest = c :: (tail ++ rest) := by simp [NumeralText.chars, shape]
  have dropped : (n.chars ++ rest).drop n.numeral.length = rest := by
    simp [NumeralText.chars, ← length]
  rw [shape', readLeaf.eq_6 _ _ _ notLetter.1 notLetter.2.1 notLetter.2.2.1 notLetter.2.2.2,
    if_pos isNumber, ← shape', NumeralText.chars, reads]
  simp only [bind, Except.bind, n.denotes, pure, Except.pure]
  rw [← NumeralText.chars, dropped]

/-- A literal starts with no blank and no bracket. -/
theorem Literal.exists_cons_chars (l : Literal) :
  ∃ c tail, l.lexeme.chars = c :: tail ∧ isSpace c = false ∧ c ≠ '[' ∧ c ≠ '\x7b' ∧ c ≠ ']'
  := by
  cases l with
  | null => exact ⟨'n', "ull".toList, by simp [lexeme, Lexeme.chars], by decide⟩
  | boolean b =>
    cases b with
    | false => exact ⟨'f', "alse".toList, by simp [lexeme, Lexeme.chars], by decide⟩
    | true => exact ⟨'t', "rue".toList, by simp [lexeme, Lexeme.chars], by decide⟩
  | number n =>
    obtain ⟨c, tail, shape, first⟩ := Numeral.exists_cons_spelled n.valid n.letter
    refine ⟨c, tail, shape, ?_⟩
    rcases first with rfl | digit
    · decide
    · have notBlank : isSpace c = false := by
        by_contra blank
        rw [Bool.not_eq_false] at blank
        have := continuesNumber_of_isSpace blank
        rw [Numeral.continuesNumber_of_isDigit digit] at this
        contradiction
      refine ⟨notBlank, ?_, ?_, ?_⟩ <;> rintro rfl <;> revert digit <;> decide
  | string pieces => exact ⟨'"', contentChars pieces ++ ['"'], rfl, by decide⟩

/-- A literal is read as a leaf.  A numeral has to end where its characters do. -/
theorem readLeaf_literal (l : Literal) (p : Position) {rest : List Char}
    (ends : ∀ n, l = .number n → Numeral.Ends rest) :
  ∃ leaf q, readLeaf p (l.lexeme.chars ++ rest) = .ok (leaf, ⟨q, rest⟩) ∧ leaf.toValue = l.value
  := by
  cases l with
  | null =>
    obtain ⟨q, reads⟩ := readWord_append (p.after 'n') "ull".toList rest
    refine ⟨.null, q, ?_, rfl⟩
    have shape : Literal.null.lexeme.chars ++ rest = 'n' :: ("ull".toList ++ rest) := by
      simp [Literal.lexeme, Lexeme.chars]
    rw [shape, readLeaf.eq_2, reads]
    rfl
  | boolean b =>
    cases b with
    | false =>
      obtain ⟨q, reads⟩ := readWord_append (p.after 'f') "alse".toList rest
      refine ⟨.boolean false, q, ?_, rfl⟩
      have shape : (Literal.boolean false).lexeme.chars ++ rest
          = 'f' :: ("alse".toList ++ rest) := by
        simp [Literal.lexeme, Lexeme.chars]
      rw [shape, readLeaf.eq_4, reads]
      rfl
    | true =>
      obtain ⟨q, reads⟩ := readWord_append (p.after 't') "rue".toList rest
      refine ⟨.boolean true, q, ?_, rfl⟩
      have shape : (Literal.boolean true).lexeme.chars ++ rest = 't' :: ("rue".toList ++ rest) := by
        simp [Literal.lexeme, Lexeme.chars]
      rw [shape, readLeaf.eq_3, reads]
      rfl
  | number n =>
    obtain ⟨q, reads⟩ := readLeaf_number n p (ends n rfl)
    exact ⟨.number n.number, q, reads, rfl⟩
  | string pieces =>
    obtain ⟨q, reads⟩ := readString_append pieces (p.after '"') rest
    refine ⟨.string (pieceText pieces), q, ?_, rfl⟩
    simp only [Literal.lexeme, Lexeme.chars, contentChars, List.cons_append, List.append_assoc,
      List.nil_append]
    rw [readLeaf.eq_5, reads]
    rfl

/-! ### One step of a reader -/

theorem readItems_succ (fuel depth : Nat) (first : Bool) (p : Position) (cs : List Char) :
  readItems (fuel + 1) depth first p cs
    = match (skipSpace p cs).chars with
      | [] => (.broken ⟨.endInList, (skipSpace p cs).position⟩, none)
      | ']' :: rest =>
        (.closed ((skipSpace p cs).position.after ']'),
          some ⟨(skipSpace p cs).position.after ']', rest⟩)
      | _ =>
        match nextItem first (skipSpace p cs) with
        | .error fault => (.broken fault, none)
        | .ok next =>
          match readNode fuel depth next.position next.chars with
          | (item, none) => (.cons item (.broken ⟨.endInList, next.position⟩), none)
          | (item, some left) =>
            let (items, left) := readItems fuel depth false left.position left.chars
            (.cons item items, left)
  := rfl

theorem readMembers_succ (fuel depth : Nat) (first : Bool) (p : Position) (cs : List Char) :
  readMembers (fuel + 1) depth first p cs
    = match (skipSpace p cs).chars with
      | [] => (.broken ⟨.endInObject, (skipSpace p cs).position⟩, none)
      | '\x7d' :: rest =>
        (.closed ((skipSpace p cs).position.after '\x7d'),
          some ⟨(skipSpace p cs).position.after '\x7d', rest⟩)
      | _ =>
        match (nextKey first (skipSpace p cs)).bind readKey with
        | .error fault => (.broken fault, none)
        | .ok (name, afterKey) =>
          let places : MemberPlaces :=
            ⟨afterKey.position, leftObject afterKey.position afterKey.chars, none⟩
          let name := String.ofList name
          match behindColon afterKey.skipSpace with
          | .error fault =>
            (.cons name places (.broken afterKey.skipSpace.peek fault) (.broken fault), none)
          | .ok colon =>
            let (value, left) := readNode fuel depth colon.position colon.chars
            let left : Except Fault Rest :=
              match left with
              | some left => .ok left
              | none => skipValue colon
            match left with
            | .error fault => (.cons name places value (.broken fault), none)
            | .ok left =>
              let next := left.skipSpace
              let (members, left) := readMembers fuel depth false next.position next.chars
              (.cons name { places with next := next.position } value members, left)
  := rfl

/-- Reading `cs` gives a part that is laid out as the value, wherever the reader stands, and leaves
`rest`. -/
def NodeReads (fuel depth : Nat) (cs : List Char) (value : Value) (rest : List Char) : Prop :=
  ∀ p, ∃ node q, readNode fuel depth p cs = (node, some ⟨q, rest⟩) ∧ node.laidOut = .ok value

/-- Reading `cs` as items gives their values and leaves `rest`. -/
def ItemsRead (fuel depth : Nat) (first : Bool) (cs : List Char) (values : List Value)
    (rest : List Char) : Prop :=
  ∀ p, ∃ items q, readItems fuel depth first p cs = (items, some ⟨q, rest⟩)
    ∧ Node.laidOutItems items = .ok values

/-- Reading `cs` as members gives their keys and values and leaves `rest`. -/
def MembersRead (fuel depth : Nat) (first : Bool) (cs : List Char)
    (entries : List (String × Value)) (rest : List Char) : Prop :=
  ∀ p, ∃ members q, readMembers fuel depth first p cs = (members, some ⟨q, rest⟩)
    ∧ Node.laidOutMembers members = .ok entries

section

variable {fuel depth : Nat} {cs mid rest : List Char} {value : Value}

/-- Blanks in front of a value are passed over. -/
theorem nodeReads_blanks (blanks : Blanks) (reads : NodeReads fuel depth cs value rest) :
  NodeReads fuel depth (blanks.chars ++ cs) value rest
  := by
  intro p
  obtain ⟨q, skips⟩ := skipSpace_append blanks p cs
  obtain ⟨node, r, result, denotes⟩ := reads q
  refine ⟨node, r, ?_, denotes⟩
  cases fuel with
  | zero => simp [readNode] at result
  | succ fuel =>
    rw [readNode.eq_def] at result ⊢
    simpa only [skips] using result

theorem skipSpace_skipSpace (p : Position) (cs : List Char) :
  skipSpace (skipSpace p cs).position (skipSpace p cs).chars = skipSpace p cs
  := by
  induction cs generalizing p with
  | nil => rfl
  | cons c rest ih =>
    cases blank : isSpace c with
    | false => simp only [skipSpace_cons p blank]
    | true => simpa [skipSpace, blank] using ih (p.after c)

/-- A reader of members passes over blanks itself. -/
theorem readMembers_skipSpace {first : Bool} {p : Position} {members : Members} {left : Rest}
    (result : readMembers fuel depth first p cs = (members, some left)) :
  readMembers fuel depth first (Rest.mk p cs).skipSpace.position (Rest.mk p cs).skipSpace.chars
    = (members, some left)
  := by
  cases fuel with
  | zero => simp [readMembers] at result
  | succ fuel =>
    rw [readMembers_succ] at result ⊢
    rw [Rest.skipSpace, skipSpace_skipSpace, result]

theorem nodeReads_literal (l : Literal) (ends : Numeral.Ends rest) :
  NodeReads (fuel + 1) depth (l.lexeme.chars ++ rest) l.value rest
  := by
  intro p
  obtain ⟨c, tail, shape, blank, opens⟩ := l.exists_cons_chars
  obtain ⟨leaf, q, reads, denotes⟩ := readLeaf_literal l p fun _ _ => ends
  rw [shape, List.cons_append] at reads ⊢
  have skips := skipSpace_cons p blank (tail ++ rest)
  refine ⟨.leaf leaf (skipSpace p (c :: (tail ++ rest))).peek q, q, ?_, ?_⟩
  · rw [readNode.eq_6, skips]
    · simp [reads]
    · simp_all
    · simp_all
    · simp_all
    · simp_all
  · rw [Node.laidOut, denotes]

theorem nodeReads_array {values : List Value} (reads : ItemsRead fuel depth true cs values rest) :
  NodeReads (fuel + 1) (depth + 1) ('[' :: cs) (.array values) rest
  := by
  intro p
  obtain ⟨items, q, result, denotes⟩ := reads (p.after '[')
  refine ⟨.array (skipSpace p ('[' :: cs)).peek (enteredArray (p.after '[') cs) items, q, ?_, ?_⟩
  · change (let (items, left) := readItems fuel depth true (p.after '[') cs
      (Node.array _ _ items, left)) = _
    rw [result]
    rfl
  · rw [Node.laidOut, denotes]
    rfl

theorem nodeReads_object {entries : List (String × Value)}
    (reads : MembersRead fuel depth true cs entries rest) :
  NodeReads (fuel + 1) (depth + 1) ('\x7b' :: cs) (.object entries) rest
  := by
  intro p
  obtain ⟨members, q, result, denotes⟩ := reads (p.after '\x7b')
  refine ⟨.object (skipSpace p ('\x7b' :: cs)).peek (leftObject (p.after '\x7b') cs) members, q,
    ?_, ?_⟩
  · change (let (members, left) := readMembers fuel depth true (p.after '\x7b') cs
      (Node.object _ _ members, left)) = _
    rw [result]
    rfl
  · rw [Node.laidOut, denotes]
    rfl

theorem itemsRead_closed (first : Bool) (blanks : Blanks) :
  ItemsRead (fuel + 1) depth first (blanks.chars ++ ']' :: rest) [] rest
  := by
  intro p
  obtain ⟨q, skips⟩ := skipSpace_append_cons blanks p (c := ']') rfl rest
  rw [readItems_succ, skips]
  exact ⟨_, _, rfl, rfl⟩

/-- An item is read before the others. -/
theorem itemsRead_cons {c : Char} (blank : isSpace c = false) (notClosed : c ≠ ']')
    {values : List Value} (blanks : Blanks) (reads : NodeReads fuel depth (c :: cs) value mid)
    (later : ItemsRead fuel depth false mid values rest) :
  ItemsRead (fuel + 1) depth true (blanks.chars ++ c :: cs) (value :: values) rest
  := by
  intro p
  obtain ⟨q, skips⟩ := skipSpace_append_cons blanks p blank cs
  obtain ⟨node, r, result, denotes⟩ := reads q
  obtain ⟨items, s, results, denote⟩ := later r
  refine ⟨.cons node items, s, ?_, ?_⟩
  · rw [readItems_succ, skips]
    split
    · contradiction
    · simp_all
    · simp [nextItem, result, results]
  · exact Node.laidOutItems_cons denotes denote

/-- Behind a comma the items are read as if they were the first ones. -/
theorem itemsRead_comma {values : List Value} (blanks : Blanks)
    (reads : ItemsRead (fuel + 1) depth true cs (value :: values) rest) :
  ItemsRead (fuel + 1) depth false (blanks.chars ++ ',' :: cs) (value :: values) rest
  := by
  intro p
  obtain ⟨q, skips⟩ := skipSpace_append_cons blanks p (c := ',') rfl cs
  obtain ⟨items, r, result, denotes⟩ := reads (q.after ',')
  refine ⟨items, r, ?_, denotes⟩
  rw [readItems_succ] at result ⊢
  rw [skips]
  split at result
  · simp at result
  · cases result
    simp [Node.laidOutItems] at denotes
  · simpa [nextItem] using result

theorem membersRead_closed (first : Bool) (blanks : Blanks) :
  MembersRead (fuel + 1) depth first (blanks.chars ++ '\x7d' :: rest) [] rest
  := by
  intro p
  obtain ⟨q, skips⟩ := skipSpace_append_cons blanks p (c := '\x7d') rfl rest
  rw [readMembers_succ, skips]
  exact ⟨_, _, rfl, rfl⟩

/-- What stands in front of the value of a member is read in two steps. -/
theorem readKey_label (label : Label) (p : Position) (cs : List Char) :
  ∃ q tail keyEnd r, skipSpace p (label.chars ++ cs) = ⟨q, '"' :: tail⟩
    ∧ readKey ⟨q, '"' :: tail⟩ = .ok (label.key.map Piece.char, keyEnd)
    ∧ behindColon keyEnd.skipSpace = .ok ⟨r, label.afterColon.chars ++ cs⟩
  := by
  have shape : label.chars ++ cs = label.before.chars ++ '"' :: (contentChars label.key
      ++ '"' :: (label.beforeColon.chars ++ ':' :: (label.afterColon.chars ++ cs))) := by
    simp [Label.chars]
  rw [shape]
  obtain ⟨q, toKey⟩ := skipSpace_append_cons label.before p (c := '"') rfl
    (contentChars label.key
      ++ '"' :: (label.beforeColon.chars ++ ':' :: (label.afterColon.chars ++ cs)))
  obtain ⟨r, key⟩ := readString_append label.key (q.after '"')
    (label.beforeColon.chars ++ ':' :: (label.afterColon.chars ++ cs))
  obtain ⟨s, toColon⟩ := skipSpace_append_cons label.beforeColon r (c := ':') rfl
    (label.afterColon.chars ++ cs)
  refine ⟨q, _, _, s.after ':', toKey, key, ?_⟩
  rw [Rest.skipSpace, toColon]
  rfl

/-- A member is read before the others. -/
theorem membersRead_cons {entries : List (String × Value)} (label : Label)
    (reads : NodeReads fuel depth cs value mid)
    (later : MembersRead fuel depth false mid entries rest) :
  MembersRead (fuel + 1) depth true (label.chars ++ cs)
    ((pieceText label.key, value) :: entries) rest
  := by
  intro p
  obtain ⟨q, tail, keyEnd, r, toKey, key, colon⟩ := readKey_label label p cs
  obtain ⟨node, s, result, denotes⟩ := nodeReads_blanks label.afterColon reads r
  obtain ⟨members, t, results, denote⟩ := later s
  rw [readMembers_succ, toKey]
  split
  · contradiction
  · simp_all
  · rw [show nextKey true _ = .ok _ from rfl, Except.bind, key]
    simp only [colon, result, readMembers_skipSpace results]
    exact ⟨_, t, rfl, Node.laidOutMembers_cons denotes denote⟩

/-- Behind a comma the members are read as if they were the first ones. -/
theorem membersRead_comma {entry : String × Value} {entries : List (String × Value)}
    (blanks : Blanks)
    (reads : MembersRead (fuel + 1) depth true cs (entry :: entries) rest) :
  MembersRead (fuel + 1) depth false (blanks.chars ++ ',' :: cs) (entry :: entries) rest
  := by
  intro p
  obtain ⟨q, skips⟩ := skipSpace_append_cons blanks p (c := ',') rfl cs
  obtain ⟨members, r, result, denotes⟩ := reads (q.after ',')
  refine ⟨members, r, ?_, denotes⟩
  rw [readMembers_succ] at result ⊢
  rw [skips]
  split at result
  · simp at result
  · cases result
    simp [Node.laidOutMembers] at denotes
  · simpa [nextKey] using result

end

/-! ### Whole texts -/

namespace Outline

/-- An outline starts with no blank and not with the end of an array. -/
theorem exists_cons_chars (t : Outline Literal) :
  ∃ c tail, t.chars Literal.lexeme = c :: tail ∧ isSpace c = false ∧ c ≠ ']'
  := by
  cases t with
  | leaf l =>
    obtain ⟨c, tail, shape, blank, -, -, notClosed⟩ := l.exists_cons_chars
    exact ⟨c, tail, by rw [chars_leaf, shape], blank, notClosed⟩
  | emptyArray blanks => exact ⟨_, _, chars_emptyArray _ blanks, by decide⟩
  | array items => exact ⟨_, _, chars_array _ items, by decide⟩
  | emptyObject blanks => exact ⟨_, _, chars_emptyObject _ blanks, by decide⟩
  | object members => exact ⟨_, _, chars_object _ members, by decide⟩

theorem length_chars_pos (t : Outline Literal) :
  0 < (t.chars Literal.lexeme).length
  := by
  obtain ⟨c, tail, shape, -⟩ := t.exists_cons_chars
  simp [shape]

/-- An item is read before the others, given the text of it. -/
theorem itemsRead_outline (t : Outline Literal) (before : Blanks) {fuel depth : Nat}
    {cs mid rest : List Char} {value : Value} {values : List Value}
    (reads : NodeReads fuel depth (t.chars Literal.lexeme ++ cs) value mid)
    (later : ItemsRead fuel depth false mid values rest) :
  ItemsRead (fuel + 1) depth true (before.chars ++ (t.chars Literal.lexeme ++ cs))
    (value :: values) rest
  := by
  obtain ⟨c, tail, shape, blank, notClosed⟩ := t.exists_cons_chars
  rw [shape, List.cons_append] at reads ⊢
  apply itemsRead_cons blank notClosed before reads later

mutual

/-- An outline is read, if there is fuel for its characters and its brackets may be opened. -/
theorem reads :
    ∀ (t : Outline Literal) {fuel depth : Nat} {rest : List Char}, t.depth ≤ depth →
      2 * (t.chars Literal.lexeme ++ rest).length < fuel → Numeral.Ends rest →
      NodeReads fuel depth (t.chars Literal.lexeme ++ rest) t.laidOut rest
  | .leaf l, fuel + 1, depth, rest, _, _, ends => by
    rw [chars_leaf]
    apply nodeReads_literal l ends
  | .emptyArray blanks, fuel + 2, depth + 1, rest, _, _, _ => by
    simp only [chars_emptyArray, List.cons_append, List.append_assoc, List.nil_append]
    apply nodeReads_array
    apply itemsRead_closed
  | .array items, fuel + 1, depth + 1, rest, deep, enough, _ => by
    simp only [chars_array, List.cons_append, List.append_assoc, List.nil_append] at enough ⊢
    apply nodeReads_array
    apply items.reads
    · simpa [Outline.depth] using deep
    · simp only [List.length_cons] at enough
      omega
  | .emptyObject blanks, fuel + 2, depth + 1, rest, _, _, _ => by
    simp only [chars_emptyObject, List.cons_append, List.append_assoc, List.nil_append]
    have closed : MembersRead (fuel + 1) depth true (blanks.chars ++ '\x7d' :: rest) [] rest :=
      membersRead_closed true blanks
    apply nodeReads_object closed
  | .object members, fuel + 1, depth + 1, rest, deep, enough, _ => by
    simp only [chars_object, List.cons_append, List.append_assoc, List.nil_append] at enough ⊢
    apply nodeReads_object
    apply members.reads
    · simpa [Outline.depth] using deep
    · simp only [List.length_cons] at enough
      omega

/-- The items of an array are read to its end. -/
theorem Items.reads :
    ∀ (items : Items Literal) {fuel depth : Nat} {rest : List Char}, items.depth ≤ depth →
      2 * (items.chars Literal.lexeme ++ ']' :: rest).length + 1 < fuel →
      ItemsRead fuel depth true (items.chars Literal.lexeme ++ ']' :: rest) items.laidOut rest
  | .last before value after, fuel + 2, depth, rest, deep, enough => by
    simp only [Items.chars_last, List.append_assoc] at enough ⊢
    have item : NodeReads (fuel + 1) depth
        (value.chars Literal.lexeme ++ (after.chars ++ ']' :: rest)) value.laidOut
        (after.chars ++ ']' :: rest) := by
      apply value.reads deep
      · simp only [List.length_append] at enough ⊢
        omega
      · apply Numeral.ends_blanks after (Numeral.ends_cons rfl rest)
    apply value.itemsRead_outline before item
    apply itemsRead_closed
  | .cons before value after later, fuel + 2, depth, rest, deep, enough => by
    simp only [Items.chars_cons, List.append_assoc, List.cons_append] at enough ⊢
    rw [Items.depth, Nat.max_le] at deep
    have nonempty := value.length_chars_pos
    have item : NodeReads (fuel + 1) depth
        (value.chars Literal.lexeme
          ++ (after.chars ++ ',' :: (later.chars Literal.lexeme ++ ']' :: rest))) value.laidOut
        (after.chars ++ ',' :: (later.chars Literal.lexeme ++ ']' :: rest)) := by
      apply value.reads deep.1
      · simp only [List.length_append] at enough ⊢
        omega
      · apply Numeral.ends_blanks after (Numeral.ends_cons rfl _)
    have others : ItemsRead (fuel + 1) depth true (later.chars Literal.lexeme ++ ']' :: rest)
        later.laidOut rest := by
      apply later.reads deep.2
      simp only [List.length_append, List.length_cons] at enough ⊢
      omega
    apply value.itemsRead_outline before item
    obtain ⟨first, values, shape⟩ := later.exists_cons_laidOut
    rw [shape] at others ⊢
    apply itemsRead_comma after others

/-- The members of an object are read to its end. -/
theorem Members.reads :
    ∀ (members : Members Literal) {fuel depth : Nat} {rest : List Char}, members.depth ≤ depth →
      2 * (members.chars Literal.lexeme ++ '\x7d' :: rest).length + 1 < fuel →
      MembersRead fuel depth true (members.chars Literal.lexeme ++ '\x7d' :: rest)
        members.laidOut rest
  | .last label value after, fuel + 2, depth, rest, deep, enough => by
    simp only [Members.chars_last, List.append_assoc] at enough ⊢
    have member : NodeReads (fuel + 1) depth
        (value.chars Literal.lexeme ++ (after.chars ++ '\x7d' :: rest)) value.laidOut
        (after.chars ++ '\x7d' :: rest) := by
      apply value.reads deep
      · simp only [List.length_append] at enough ⊢
        omega
      · apply Numeral.ends_blanks after (Numeral.ends_cons rfl rest)
    apply membersRead_cons label member
    apply membersRead_closed
  | .cons label value after later, fuel + 2, depth, rest, deep, enough => by
    simp only [Members.chars_cons, List.append_assoc, List.cons_append] at enough ⊢
    rw [Members.depth, Nat.max_le] at deep
    have nonempty := value.length_chars_pos
    have member : NodeReads (fuel + 1) depth
        (value.chars Literal.lexeme
          ++ (after.chars ++ ',' :: (later.chars Literal.lexeme ++ '\x7d' :: rest))) value.laidOut
        (after.chars ++ ',' :: (later.chars Literal.lexeme ++ '\x7d' :: rest)) := by
      apply value.reads deep.1
      · simp only [List.length_append] at enough ⊢
        omega
      · apply Numeral.ends_blanks after (Numeral.ends_cons rfl _)
    have others : MembersRead (fuel + 1) depth true (later.chars Literal.lexeme ++ '\x7d' :: rest)
        later.laidOut rest := by
      apply later.reads deep.2
      simp only [List.length_append, List.length_cons] at enough ⊢
      omega
    apply membersRead_cons label member
    obtain ⟨first, entries, shape⟩ := later.exists_cons_laidOut
    rw [shape] at others ⊢
    apply membersRead_comma after others

end

end Outline

/-- A text laid out as an outline is read to its end, as the outline shows. -/
theorem Sheet.laidOut_ofChars (t : Sheet Literal) (deep : t.root.depth ≤ depthLimit) :
  (Document.ofChars (t.chars Literal.lexeme)).root.laidOut = .ok t.root.laidOut
    ∧ (Document.ofChars (t.chars Literal.lexeme)).surplus = none
  := by
  have reads : NodeReads (2 * (t.chars Literal.lexeme).length + 2) depthLimit
      (t.chars Literal.lexeme) t.root.laidOut t.after.chars := by
    rw [Sheet.chars_eq]
    apply nodeReads_blanks
    apply t.root.reads deep
    · simp only [List.length_append]
      omega
    · rw [← List.append_nil t.after.chars]
      apply Numeral.ends_blanks
      rintro c ⟨⟩
  obtain ⟨node, q, result, denotes⟩ := reads .start
  obtain ⟨r, skips⟩ := skipSpace_append t.after q []
  rw [List.append_nil] at skips
  rw [Document.ofChars, result]
  simp [skips, skipSpace, denotes]

/-- **Completeness.**  A text laid out as an outline has the value that the outline shows. -/
theorem Sheet.toValue_ofChars (t : Sheet Literal) (deep : t.root.depth ≤ depthLimit) :
  (Document.ofChars (t.chars Literal.lexeme)).toValue = .ok t.root.literalValue
  := by
  obtain ⟨laidOut, final⟩ := t.laidOut_ofChars deep
  rw [Document.toValue, Document.readWith, Node.toValue_of_laidOut laidOut, final,
    t.root.sorted_laidOut]

end ConfigTemplate.Json
