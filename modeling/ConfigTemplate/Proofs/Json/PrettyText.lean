import ConfigTemplate.Proofs.Json.DocumentValue
import ConfigTemplate.Proofs.Number.Text

/-!
# The pretty text of a value

A value without floating point numbers is written over several lines as a text that has an outline:
every item and every member stands behind a line break, and the outline is laid out as the value.
So the text is read as a document that is laid out as the value, `laidOut_pretty`, and `parse_pretty`
reads the text back as the sorted value.
-/

namespace ConfigTemplate.Json

namespace Value

/-- Every number of the value is an integer. -/
inductive Integral : Value → Prop
  | null : Integral .null
  | boolean (b : Bool) : Integral (.boolean b)
  | number (value : Int) (fits : -0x8000000000000000 ≤ value ∧ value < 0x10000000000000000) :
    Integral (.number (.integer value fits))
  | string (s : String) : Integral (.string s)
  | array {items : List Value} (each : ∀ item ∈ items, Integral item) : Integral (.array items)
  | object {members : List (String × Value)} (each : ∀ member ∈ members, Integral member.2) :
    Integral (.object members)

mutual

/-- Whether all numbers are integers can be found out. -/
def decidableIntegral : (v : Value) → Decidable v.Integral
  | .null => .isTrue .null
  | .boolean b => .isTrue (.boolean b)
  | .number (.integer value fits) => .isTrue (.number value fits)
  | .number (.float _) => .isFalse nofun
  | .string s => .isTrue (.string s)
  | .array items =>
    @decidable_of_iff _ _ ⟨.array, fun | .array each => each⟩ (decidableIntegralItems items)
  | .object members =>
    @decidable_of_iff _ _ ⟨.object, fun | .object each => each⟩ (decidableIntegralMembers members)
termination_by structural v => v

def decidableIntegralItems :
    (items : List Value) → Decidable (∀ item ∈ items, item.Integral)
  | [] => .isTrue nofun
  | item :: rest =>
    have := item.decidableIntegral
    have := decidableIntegralItems rest
    decidable_of_iff _ List.forall_mem_cons.symm
termination_by structural items => items

def decidableIntegralMembers :
    (members : List (String × Value)) → Decidable (∀ member ∈ members, member.2.Integral)
  | [] => .isTrue nofun
  | (_, value) :: rest =>
    have := value.decidableIntegral
    have := decidableIntegralMembers rest
    decidable_of_iff _ List.forall_mem_cons.symm
termination_by structural members => members

end

instance (v : Value) : Decidable v.Integral := v.decidableIntegral

/-- No more than so many brackets of the value are open at once. -/
inductive Shallow : Nat → Value → Prop
  | null (limit : Nat) : Shallow limit .null
  | boolean (limit : Nat) (b : Bool) : Shallow limit (.boolean b)
  | number (limit : Nat) (n : Number) : Shallow limit (.number n)
  | string (limit : Nat) (s : String) : Shallow limit (.string s)
  | array {limit : Nat} {items : List Value} (each : ∀ item ∈ items, Shallow limit item) :
    Shallow (limit + 1) (.array items)
  | object {limit : Nat} {members : List (String × Value)}
    (each : ∀ member ∈ members, Shallow limit member.2) : Shallow (limit + 1) (.object members)

end Value

/-- A line end with the indentation of a level. -/
def Blanks.lineBreak (level : Nat) : Blanks where
  chars := Value.lineBreak level
  blank := by
    intro c mem
    rcases List.mem_cons.1 mem with rfl | mem
    · rfl
    · rw [List.eq_of_mem_replicate mem]
      rfl

/-- One blank. -/
def Blanks.single : Blanks := ⟨[' '], List.all_eq_true.1 rfl⟩

/-- The blanks and the key in front of a member on a line of its own. -/
def Label.onLine (level : Nat) (key : List Piece) : Label where
  before := .lineBreak level
  key := key
  beforeColon := .none
  afterColon := .single

theorem Label.chars_onLine (level : Nat) (key : List Piece) :
  (onLine level key).chars
    = Value.lineBreak level ++ (Literal.string key).lexeme.chars ++ [':', ' ']
  := by
  simp [chars, onLine, Blanks.lineBreak, Blanks.none, Blanks.single, Literal.lexeme, Lexeme.chars]

namespace Value

mutual

/-- The pretty text of a value has an outline. -/
theorem exists_outline_pretty :
    ∀ (v : Value) {limit : Nat} (level : Nat), v.Integral → v.Shallow limit →
      ∃ t : Outline Literal, t.chars Literal.lexeme = v.prettyChars level
        ∧ t.laidOut = v ∧ t.depth ≤ limit
  | .null, limit, level, _, _ =>
    ⟨.leaf .null, Outline.chars_leaf Literal.lexeme .null, rfl, Nat.zero_le _⟩
  | .boolean true, limit, level, _, _ =>
    ⟨.leaf (.boolean true), Outline.chars_leaf Literal.lexeme (.boolean true), rfl, Nat.zero_le _⟩
  | .boolean false, limit, level, _, _ =>
    ⟨.leaf (.boolean false), Outline.chars_leaf Literal.lexeme (.boolean false), rfl,
      Nat.zero_le _⟩
  | .number n, limit, level, integral, _ => by
    cases integral with
    | number value fits =>
      refine ⟨.leaf (.number (.ofInt value fits)), ?_, rfl, Nat.zero_le _⟩
      rw [Outline.chars_leaf, prettyChars]
      exact Numeral.spelled_ofInt value 'e'
  | .string s, limit, level, _, _ => by
    obtain ⟨pieces, written, same⟩ := Literal.exists_string s
    refine ⟨.leaf (.string pieces), ?_, ?_, Nat.zero_le _⟩
    · rw [Outline.chars_leaf, prettyChars, written]
    · exact congrArg Value.string same
  | .array [], limit, level, _, shallow => by
    cases shallow with
    | array each =>
      refine ⟨.emptyArray .none, ?_, rfl, Nat.le_add_left 1 _⟩
      exact Outline.chars_emptyArray Literal.lexeme .none
  | .array (item :: rest), limit, level, integral, shallow => by
    cases integral with
    | array integral =>
    cases shallow with
    | array shallow =>
      obtain ⟨t, written, same, deep⟩ := exists_items_pretty (item :: rest) (level + 1)
        (.lineBreak level) (List.cons_ne_nil _ _) integral shallow
      refine ⟨.array t, ?_, ?_, Nat.succ_le_succ deep⟩
      · simp [prettyChars, written, Blanks.lineBreak]
      · exact congrArg Value.array same
  | .object [], limit, level, _, shallow => by
    cases shallow with
    | object each =>
      refine ⟨.emptyObject .none, ?_, rfl, Nat.le_add_left 1 _⟩
      exact Outline.chars_emptyObject Literal.lexeme .none
  | .object (member :: rest), limit, level, integral, shallow => by
    cases integral with
    | object integral =>
    cases shallow with
    | object shallow =>
      obtain ⟨t, written, same, deep⟩ := exists_members_pretty (member :: rest) (level + 1)
        (.lineBreak level) (List.cons_ne_nil _ _) integral shallow
      refine ⟨.object t, ?_, ?_, Nat.succ_le_succ deep⟩
      · simp [prettyChars, written, Blanks.lineBreak]
      · exact congrArg Value.object same

/-- The lines of the items are the text of items. -/
theorem exists_items_pretty :
    ∀ (items : List Value) {limit : Nat} (level : Nat) (after : Blanks), items ≠ [] →
      (∀ item ∈ items, item.Integral) → (∀ item ∈ items, item.Shallow limit) →
      ∃ t : Outline.Items Literal,
        t.chars Literal.lexeme = prettyItems level items ++ after.chars
          ∧ t.laidOut = items ∧ t.depth ≤ limit
  | [], limit, level, after, nonempty, _, _ => absurd rfl nonempty
  | [item], limit, level, after, _, integral, shallow => by
    rw [List.forall_mem_singleton] at integral shallow
    obtain ⟨t, written, same, deep⟩ := exists_outline_pretty item level integral shallow
    refine ⟨.last (.lineBreak level) t after, ?_, ?_, deep⟩
    · simp [prettyItems, written, Blanks.lineBreak]
    · exact congrArg (fun v => [v]) same
  | item :: next :: rest, limit, level, after, _, integral, shallow => by
    rw [List.forall_mem_cons] at integral shallow
    obtain ⟨t, written, same, deep⟩ := exists_outline_pretty item level integral.1 shallow.1
    obtain ⟨later, writtenLater, sameLater, deepLater⟩ := exists_items_pretty (next :: rest) level
      after (List.cons_ne_nil _ _) integral.2 shallow.2
    refine ⟨.cons (.lineBreak level) t .none later, ?_, ?_, Nat.max_le.2 ⟨deep, deepLater⟩⟩
    · simp [prettyItems, written, writtenLater, Blanks.lineBreak, Blanks.none]
    · exact congrArg₂ List.cons same sameLater

/-- The lines of the members are the text of members. -/
theorem exists_members_pretty :
    ∀ (members : List (String × Value)) {limit : Nat} (level : Nat) (after : Blanks),
      members ≠ [] → (∀ member ∈ members, member.2.Integral) →
      (∀ member ∈ members, member.2.Shallow limit) →
      ∃ t : Outline.Members Literal,
        t.chars Literal.lexeme = prettyMembers level members ++ after.chars
          ∧ t.laidOut = members ∧ t.depth ≤ limit
  | [], limit, level, after, nonempty, _, _ => absurd rfl nonempty
  | [(name, value)], limit, level, after, _, integral, shallow => by
    rw [List.forall_mem_singleton] at integral shallow
    obtain ⟨key, label, sameKey⟩ := Literal.exists_string name
    obtain ⟨t, written, same, deep⟩ := exists_outline_pretty value level integral shallow
    refine ⟨.last (.onLine level key) t after, ?_, ?_, deep⟩
    · simp [prettyMembers, label, written, Label.chars_onLine]
    · exact congrArg₂ (fun k v => [(k, v)]) sameKey same
  | (name, value) :: next :: rest, limit, level, after, _, integral, shallow => by
    rw [List.forall_mem_cons] at integral shallow
    obtain ⟨key, label, sameKey⟩ := Literal.exists_string name
    obtain ⟨t, written, same, deep⟩ := exists_outline_pretty value level integral.1 shallow.1
    obtain ⟨later, writtenLater, sameLater, deepLater⟩ := exists_members_pretty (next :: rest)
      level after (List.cons_ne_nil _ _) integral.2 shallow.2
    refine ⟨.cons (.onLine level key) t .none later, ?_, ?_, Nat.max_le.2 ⟨deep, deepLater⟩⟩
    · simp [prettyMembers, label, written, writtenLater, Label.chars_onLine, Blanks.none]
    · exact congrArg₂ List.cons (congrArg₂ Prod.mk sameKey same) sameLater

end

/-- The pretty text of a value, with blanks behind it or not, is the text of an outline. -/
theorem exists_sheet_pretty {v : Value} (integral : v.Integral) (shallow : v.Shallow depthLimit)
    (after : Blanks) :
  ∃ t : Sheet Literal, v.pretty.toList ++ after.chars = t.chars Literal.lexeme
    ∧ t.root.laidOut = v ∧ t.root.depth ≤ depthLimit
  := by
  obtain ⟨t, written, same, deep⟩ := v.exists_outline_pretty 0 integral shallow
  refine ⟨⟨.none, t, after⟩, ?_, same, deep⟩
  rw [Sheet.chars_eq, written, pretty, String.toList_ofList]
  rfl

/-- The pretty text of a value is read to its end, as the value is laid out. -/
theorem laidOut_pretty {v : Value} (integral : v.Integral) (shallow : v.Shallow depthLimit) :
  (Document.ofText v.pretty).root.laidOut = .ok v ∧ (Document.ofText v.pretty).surplus = none
  := by
  obtain ⟨t, written, same, deep⟩ := exists_sheet_pretty integral shallow .none
  have text : v.pretty.toList = t.chars Literal.lexeme := by
    rw [← written, Blanks.none, List.append_nil]
  rw [Document.ofText, text, ← same]
  exact t.laidOut_ofChars deep

/-- The pretty text of a value with a line end behind it is read as the value in sorted order. -/
theorem parse_pretty {v : Value} (integral : v.Integral) (shallow : v.Shallow depthLimit) :
  parse (v.pretty ++ "\n") = .ok v.sorted
  := by
  obtain ⟨t, written, same, deep⟩ := exists_sheet_pretty integral shallow (.lineBreak 0)
  have text : (v.pretty ++ "\n").toList = t.chars Literal.lexeme := by
    rw [← written, String.toList_append]
    rfl
  rw [parse, Document.ofText, text, Sheet.toValue_ofChars _ deep, ← t.root.sorted_laidOut, same]

/-- The pretty text of a value does not end in a line end. -/
theorem getLast?_prettyChars (v : Value) (level : Nat) :
  (v.prettyChars level).getLast? ≠ some '\n'
  := by
  cases v with
  | null => simp [prettyChars]
  | boolean b => cases b <;> simp [prettyChars]
  | number n =>
    intro last
    have isText := n.isTextChar_chars '\n' (List.mem_of_getLast? last)
    contradiction
  | string s => simp [prettyChars, stringChars, List.getLast?_cons]
  | array items => cases items <;> simp [prettyChars, List.getLast?_cons]
  | object members => cases members <;> simp [prettyChars, List.getLast?_cons]

end Value

/-! ### The values of documents -/

namespace Outline

mutual

/-- The value of an outline opens no more brackets than the outline. -/
theorem shallow_value :
    ∀ (t : Outline Literal) {limit : Nat}, t.depth ≤ limit → t.literalValue.Shallow limit
  | .leaf .null, _, _ => .null _
  | .leaf (.boolean b), _, _ => .boolean _ b
  | .leaf (.number n), _, _ => .number _ n.number
  | .leaf (.string pieces), _, _ => .string _ (pieceText pieces)
  | .emptyArray _, _ + 1, _ => .array nofun
  | .array items, _ + 1, deep => .array (items.shallow_values (Nat.le_of_succ_le_succ deep))
  | .emptyObject _, _ + 1, _ => .object nofun
  | .object members, _ + 1, deep =>
    .object fun member mem =>
      members.shallow_entries (Nat.le_of_succ_le_succ deep) member (mem_of_mem_sortEntries mem)

theorem Items.shallow_values :
    ∀ (items : Items Literal) {limit : Nat}, items.depth ≤ limit →
      ∀ v ∈ items.values Literal.value pieceText, v.Shallow limit
  | .last _ value _, _, deep => List.forall_mem_singleton.2 (value.shallow_value deep)
  | .cons _ value _ rest, _, deep =>
    List.forall_mem_cons.2 ⟨value.shallow_value (Nat.max_le.1 deep).1,
      rest.shallow_values (Nat.max_le.1 deep).2⟩

theorem Members.shallow_entries :
    ∀ (members : Members Literal) {limit : Nat}, members.depth ≤ limit →
      ∀ member ∈ members.entries Literal.value pieceText, member.2.Shallow limit
  | .last _ value _, _, deep => List.forall_mem_singleton.2 (value.shallow_value deep)
  | .cons _ value _ rest, _, deep =>
    List.forall_mem_cons.2 ⟨value.shallow_value (Nat.max_le.1 deep).1,
      rest.shallow_entries (Nat.max_le.1 deep).2⟩

end

end Outline

/-- A text is read as a canonical value that is no deeper than the limit. -/
theorem canonical_of_toValue {cs : List Char} {value : Value}
    (h : (Document.ofChars cs).toValue = .ok value) :
  value.Canonical ∧ value.Shallow depthLimit
  := by
  refine ⟨canonical_toValue (eq_ok_of_readWith h).1, ?_⟩
  obtain ⟨t, -, rfl, deep⟩ := exists_sheet_of_toValue h
  exact t.root.shallow_value deep

end ConfigTemplate.Json
