import ConfigTemplate.Proofs.Json.Repetition

/-!
# Texts that repeat no field

A text is read by a faithful codec if the value of the text is, and no object that the codec knows
repeats a name: `Shape.single_of_unrepeated`.  Names that no codec knows may be repeated.  Of all
members of one name the last one is in the value, however deep in the text it stands:
`map_toValue_last?`.
-/

namespace ConfigTemplate.Json

/-! ### Names in the objects of a shape -/

namespace Shape

mutual

/-- In the part no record repeats a field, and no dictionary a name. -/
def Unrepeated : Shape → Node → Prop
  | .record fields, .object _ _ members => UnrepeatedFields fields members.split.1
  | .dictionary _ entry, .object _ _ members =>
    (members.split.1.map Member.key).Nodup ∧ ∀ m ∈ members.split.1, entry.Unrepeated m.value
  | _, _ => True
termination_by structural shape => shape

/-- The members repeat none of the fields, nor is anything repeated in a field. -/
def UnrepeatedFields : List (String × Shape) → List Member → Prop
  | [], _ => True
  | (name, shape) :: rest, members =>
    ((named name members).length ≤ 1 ∧ ∀ m ∈ named name members, shape.Unrepeated m.value)
      ∧ UnrepeatedFields rest members
termination_by structural fields => fields

end

mutual

/-- Whether something is repeated can be found out. -/
def decidableUnrepeated : (shape : Shape) → (node : Node) → Decidable (shape.Unrepeated node)
  | .record fields, .object _ _ members => decidableUnrepeatedFields fields members.split.1
  | .dictionary _ entry, .object _ _ members =>
    have (m : Member) : Decidable (entry.Unrepeated m.value) := entry.decidableUnrepeated m.value
    inferInstanceAs (Decidable ((members.split.1.map Member.key).Nodup
      ∧ ∀ m ∈ members.split.1, entry.Unrepeated m.value))
  | .plain, _ => .isTrue (by trivial)
  | .record _, .leaf .. | .record _, .array .. | .record _, .absent _ | .record _, .broken .. =>
    .isTrue (by trivial)
  | .dictionary .., .leaf .. | .dictionary .., .array .. | .dictionary .., .absent _
  | .dictionary .., .broken .. => .isTrue (by trivial)
termination_by structural shape => shape

def decidableUnrepeatedFields :
    (fields : List (String × Shape)) → (members : List Member) →
      Decidable (UnrepeatedFields fields members)
  | [], _ => .isTrue trivial
  | (name, shape) :: rest, members =>
    have (m : Member) : Decidable (shape.Unrepeated m.value) := shape.decidableUnrepeated m.value
    have := decidableUnrepeatedFields rest members
    inferInstanceAs (Decidable (((named name members).length ≤ 1
      ∧ ∀ m ∈ named name members, shape.Unrepeated m.value) ∧ UnrepeatedFields rest members))
termination_by structural fields => fields

end

instance (shape : Shape) (node : Node) : Decidable (shape.Unrepeated node) :=
  shape.decidableUnrepeated node

-- Whether a text repeats something is not to be computed where the text is only talked about.
attribute [irreducible] Unrepeated UnrepeatedFields

end Shape

/-! ### The members of a name -/

theorem length_named_le_one {members : List Member} (distinct : (members.map Member.key).Nodup)
    (name : String) :
  (named name members).length ≤ 1
  := by
  have count := List.nodup_iff_count.1 distinct name
  rwa [List.count, List.countP_map, List.countP_eq_length_filter] at count

namespace Denote

variable {members : List Member} {entries : List (String × Value)}

/-- The last member of a name has the last value of that name. -/
theorem map_toValue_getLast? (denote : Denote members entries) (name : String) :
  ((Json.named name members).getLast?.map fun m => m.value.toValue)
    = (entries.reverse.lookup name).map .ok
  := by
  have looked := lookup_filter (· == name) entries.reverse name
  rw [List.filter_reverse, beq_self_eq_true, if_pos rfl] at looked
  -- Read backwards, both lists begin with what was the last of the name.
  have backwards := List.forall₂_reverse_iff.2 (denote.named name)
  rw [← looked, List.getLast?_eq_head?_reverse]
  cases found : (Json.named name members).reverse with
  | nil =>
    rw [found] at backwards
    rw [List.forall₂_nil_left_iff.1 backwards]
    rfl
  | cons member others =>
    rw [found] at backwards
    obtain ⟨⟨key, value⟩, rest, ⟨-, denotes⟩, -, shape⟩ := List.forall₂_cons_left_iff.1 backwards
    have mem : (key, value) ∈ entries.filter (·.1 == name) := by
      rw [← List.mem_reverse, shape]
      exact List.mem_cons_self
    have isNamed : key = name := by simpa using (List.mem_filter.1 mem).2
    rw [shape, lookup_cons_eq, if_pos isNamed.symm, List.head?_cons, Option.map_some,
      Option.map_some, denotes]

/-- The value of the only member of a name is in the sorted entries. -/
theorem exists_mem_sortEntries (denote : Denote members entries) {member : Member}
    (mem : member ∈ members) (once : (Json.named member.key members).length ≤ 1) :
  ∃ value, member.value.toValue = .ok value ∧ (member.key, value) ∈ sortEntries entries
  := by
  have isNamed : member ∈ Json.named member.key members :=
    List.mem_filter.2 ⟨mem, beq_self_eq_true member.key⟩
  obtain ⟨only, single⟩ := List.length_eq_one_iff.1
    (Nat.le_antisymm once (List.length_pos_of_mem isNamed))
  rw [single, List.mem_singleton] at isNamed
  subst isNamed
  have last := denote.map_toValue_getLast? member.key
  rw [single, List.getLast?_singleton, Option.map_some, ← lookup_sortEntries] at last
  obtain ⟨value, found, denotes⟩ := Option.map_eq_some_iff.1 last.symm
  exact ⟨value, denotes.symm, (sortedEntries_sortEntries entries).lookup_eq_some_iff.1 found⟩

end Denote

/-! ### Reading a text without repetitions -/

namespace Shape

/-- A part is an object if its value is of the shape of objects. -/
theorem exists_object_of_single {shape : Shape} {node : Node} {value : Value}
    (denotes : node.toValue = .ok value) (single : shape.Single (Node.ofValue value))
    (objects : shape ≠ .plain) :
  ∃ start entered members entries, node = .object start entered members
    ∧ Node.memberValues members = .ok entries ∧ value = .object (sortEntries entries)
  := by
  cases node with
  | leaf l start after =>
    obtain rfl := Except.ok.inj denotes
    cases l <;> cases single <;> contradiction
  | array start entered items =>
    obtain ⟨values, -, rfl⟩ := map_eq_ok denotes
    cases single
    contradiction
  | object start entered members =>
    obtain ⟨entries, parts, rfl⟩ := map_eq_ok denotes
    exact ⟨start, entered, members, entries, rfl, parts, rfl⟩
  | absent | broken => simp [Node.toValue] at denotes

mutual

/-- What is as a shape asks in the value of a part is so in the part, if nothing is repeated. -/
theorem single_of_unrepeated :
    ∀ (shape : Shape) {node : Node} {value : Value}, shape.Unrepeated node →
      node.toValue = .ok value → shape.Single (Node.ofValue value) → shape.Single node
  | .plain, node, _, _, _, _ => .plain node
  | .record fields, node, value, unrepeated, denotes, single => by
    obtain ⟨start, entered, members, entries, rfl, parts, rfl⟩ :=
      exists_object_of_single denotes single nofun
    rw [Unrepeated] at unrepeated
    rw [Node.ofValue, single_record_iff, split_ofMembers] at single
    rw [single_record_iff]
    exact once_of_unrepeated fields unrepeated (denote_of_memberValues parts).1 single
  | .dictionary accepts entry, node, value, unrepeated, denotes, single => by
    obtain ⟨start, entered, members, entries, rfl, parts, rfl⟩ :=
      exists_object_of_single denotes single nofun
    rw [Unrepeated] at unrepeated
    obtain ⟨distinct, each⟩ := unrepeated
    obtain ⟨denote, -⟩ := denote_of_memberValues parts
    have inValue : ∀ member ∈ members.split.1, ∃ v, member.value.toValue = .ok v
        ∧ (member.key, v) ∈ sortEntries entries := by
      intro member mem
      exact denote.exists_mem_sortEntries mem (length_named_le_one distinct member.key)
    rw [Node.ofValue] at single
    rcases single with _ | _ | ⟨accepted, singles⟩
    rw [split_ofMembers] at accepted singles
    constructor
    · intro member mem
      obtain ⟨v, denotes, found⟩ := inValue member mem
      obtain ⟨w, same, ok⟩ := accepted _ (List.mem_map_of_mem found)
      have sorted : v.sorted = w := Except.ok.inj ((toValue_ofValue v).symm.trans same)
      rw [(canonical_toValue denotes).sorted_eq] at sorted
      exact ⟨v, denotes, sorted ▸ ok⟩
    · intro member mem
      obtain ⟨v, denotes, found⟩ := inValue member mem
      exact single_of_unrepeated entry (each member mem) denotes
        (singles _ (List.mem_map_of_mem found))

/-- Fields that occur once in the value of an object occur once in the object. -/
theorem once_of_unrepeated :
    ∀ (fields : List (String × Shape)) {members : List Member} {entries : List (String × Value)},
      UnrepeatedFields fields members → Denote members entries →
      Once fields ((sortEntries entries).map Member.ofEntry) → Once fields members
  | [], _, _, _, _, _ => nofun
  | (name, shape) :: rest, members, entries, unrepeated, denote, once => by
    rw [UnrepeatedFields] at unrepeated
    obtain ⟨⟨atMostOnce, each⟩, others⟩ := unrepeated
    rw [Once, List.forall_mem_cons] at once ⊢
    refine ⟨⟨atMostOnce, ?_⟩, once_of_unrepeated rest others denote once.2⟩
    intro member isNamed
    obtain ⟨mem, key⟩ := List.mem_filter.1 isNamed
    obtain rfl : member.key = name := by simpa using key
    obtain ⟨v, denotes, found⟩ := denote.exists_mem_sortEntries mem atMostOnce
    apply single_of_unrepeated shape (each member isNamed) denotes
    apply once.1.2 (.ofEntry (member.key, v))
    exact List.mem_filter.2 ⟨List.mem_map_of_mem found, beq_self_eq_true member.key⟩

end

end Shape

/-! ### The last member of a name -/

/-- What is found in a part along the names, taking the last member of each name. -/
def Node.last? : List String → Node → Option Node
  | [], node => some node
  | name :: path, .object _ _ members =>
    (named name members.split.1).getLast?.bind fun member => last? path member.value
  | _ :: _, _ => none

/-- What is found in a value along the names. -/
def Value.at? : List String → Value → Option Value
  | [], value => some value
  | name :: path, value => (value.member? name).bind (at? path)

/-- The value of a part has, along any names, what is the last in the part. -/
theorem map_toValue_last? {node : Node} {value : Value} (denotes : node.toValue = .ok value)
    (path : List String) :
  (node.last? path).map Node.toValue = (value.at? path).map .ok
  := by
  induction path generalizing node value with
  | nil => simp [Node.last?, Value.at?, denotes]
  | cons name path ih =>
    rw [Value.at?]
    cases node with
    | object start entered members =>
      obtain ⟨entries, parts, rfl⟩ := map_eq_ok denotes
      have last := (denote_of_memberValues parts).1.map_toValue_getLast? name
      rw [Node.last?, Value.member?, lookup_sortEntries]
      cases found : (named name members.split.1).getLast? with
      | none =>
        rw [found] at last
        rw [Option.map_eq_none_iff.1 last.symm]
        rfl
      | some member =>
        rw [found, Option.map_some] at last
        obtain ⟨v, isLast, same⟩ := Option.map_eq_some_iff.1 last.symm
        rw [isLast]
        exact ih same.symm
    | leaf l start after =>
      obtain rfl := Except.ok.inj denotes
      cases l <;> rfl
    | array start entered items =>
      obtain ⟨values, -, rfl⟩ := map_eq_ok denotes
      rfl
    | absent | broken => simp [Node.toValue] at denotes

end ConfigTemplate.Json
