import ConfigTemplate.Proofs.Json.CodecLaws
import ConfigTemplate.Proofs.Json.DocumentValue

/-!
# Repeated names

A typed document can be read from a text, or from the value that the text has.  A value has one
member of each name, the last one of the text, so it does not show which names the text repeats.  A
codec is faithful to a shape if that is all the difference: it reads from a text what it reads from
the value, provided that the text repeats no name of a field and that also those entries of
dictionaries which are replaced can be read.
-/

namespace ConfigTemplate.Json

/-! ### Shapes -/

/-- What matters about the type of a part when it is read from a text. -/
inductive Shape where
  /-- A part in which nothing is repeated. -/
  | plain
  /-- An object with fields. -/
  | record (fields : List (String × Shape))
  /-- An object with any names, whose entries have to be of some kind. -/
  | dictionary (accepts : Value → Prop) (entry : Shape)

/-- The members of a name. -/
def named (name : String) (members : List Member) : List Member :=
  members.filter (·.key == name)

namespace Shape

/-- The text repeats no field of a record, and every entry of a dictionary is of the kind that is
asked for, also if another one of its name follows. -/
inductive Single : Shape → Node → Prop
  | plain (node : Node) : Single .plain node
  | record {fields : List (String × Shape)} {start entered : Place} {members : Members}
    (once : ∀ field ∈ fields, (named field.1 members.split.1).length ≤ 1)
    (each : ∀ field ∈ fields, ∀ member ∈ named field.1 members.split.1,
      Single field.2 member.value) :
    Single (.record fields) (.object start entered members)
  | dictionary {accepts : Value → Prop} {entry : Shape} {start entered : Place} {members : Members}
    (accepted : ∀ member ∈ members.split.1, ∃ value, member.value.toValue = .ok value
      ∧ accepts value)
    (each : ∀ member ∈ members.split.1, Single entry member.value) :
    Single (.dictionary accepts entry) (.object start entered members)

/-- The members repeat none of the fields, and what is in the fields repeats nothing either. -/
def Once (fields : List (String × Shape)) (members : List Member) : Prop :=
  ∀ field ∈ fields, (named field.1 members).length ≤ 1
    ∧ ∀ member ∈ named field.1 members, Single field.2 member.value

theorem single_record_iff {fields : List (String × Shape)} {start entered : Place}
    {members : Members} :
  Single (.record fields) (.object start entered members) ↔ Once fields members.split.1
  := by
  constructor
  · rintro (_ | ⟨once, each⟩)
    exact fun field mem => ⟨once field mem, each field mem⟩
  · intro h
    exact .record (fun field mem => (h field mem).1) (fun field mem => (h field mem).2)

end Shape

/-! ### The members of a text and those of its value -/

namespace Denote

variable {members : List Member} {entries : List (String × Value)}

/-- What holds of the values of all members holds of all entries. -/
theorem forall_iff (denote : Denote members entries) (P : Value → Prop) :
  (∀ member ∈ members, ∃ value, member.value.toValue = .ok value ∧ P value)
    ↔ ∀ entry ∈ entries, P entry.2
  := by
  induction denote with
  | nil => simp
  | @cons member entry rest rest' head _ ih =>
    rw [List.forall_mem_cons, List.forall_mem_cons, ih]
    simp [head.2]

theorem named (denote : Denote members entries) (name : String) :
  Denote (named name members) (entries.filter (·.1 == name))
  := by
  apply List.rel_filter _ denote
  rintro member entry ⟨same, -⟩
  simp only [same]

end Denote

namespace Fields

variable {α β : Type} {members : List Member} {entries : List (String × Value)}

/-- A field is read from the only member of its name. -/
theorem read_field_iff {name : String} {codec : Codec α} {missing : String → Fault} {x : α} :
  (field name codec).read members missing = .ok x
    ↔ ∃ member, named name members = [member] ∧ codec.read member.value = .ok x
  := by
  constructor
  · intro h
    obtain ⟨member, i, places, read⟩ := exists_occurrence_of_read_field h
    refine ⟨member, ?_, read⟩
    rw [named, ← map_fst_occurrences, places, List.map_singleton]
  · rintro ⟨member, only, read⟩
    rw [named, ← map_fst_occurrences] at only
    obtain ⟨⟨_, i⟩, places, rfl⟩ := List.map_eq_singleton_iff.1 only
    simp [field, places, read]

theorem readNumbered_of_denote (denote : Denote members entries) (names : List String)
    (start : Nat) :
  readNumbered names (members.zipIdx start)
    = .ok ((entries.filter (!names.contains ·.1)).map fun (name, value) => (name, value.sorted))
  := by
  unfold readNumbered
  induction denote generalizing start with
  | nil => rfl
  | @cons member entry rest rest' head _ ih =>
    obtain ⟨key, value⟩ := entry
    obtain ⟨rfl, denotes⟩ := head
    have sorted : value.sorted = value := (canonical_toValue denotes).sorted_eq
    rw [List.zipIdx_cons, List.filter_cons, List.filter_cons]
    cases known : names.contains member.key with
    | true =>
      have isField : member.key ∈ names := by simpa using known
      simpa [isField] using ih (start + 1)
    | false =>
      simp only [known, Bool.not_false, ↓reduceIte, List.mapM_cons, denotes] at ih ⊢
      rw [ih (start + 1)]
      simp [sorted]
      rfl

/-- The members that are no fields are read as they are read from the value. -/
theorem readOthers_of_denote (denote : Denote members entries) (names : List String) :
  readOthers names members = .ok (others names entries)
  := congrArg (Except.map Dictionary.ofList) (readNumbered_of_denote denote names 0)

end Fields

/-! ### Faithful codecs -/

namespace Codec

variable {α : Type}

/-- The codec reads from a part what it reads from the value of the part, provided that the part is
as the shape asks. -/
class Faithful (codec : Codec α) (shape : outParam Shape) : Prop where
  read_iff {node : Node} {value : Value} {x : α} (denotes : node.toValue = .ok value) :
    codec.read node = .ok x ↔ shape.Single node ∧ codec.Reads value x

/-- A codec of leaves is faithful if it does not look at places. -/
theorem Faithful.of_leaf {codec : Codec α}
    (leaf : ∀ l start after x,
      codec.read (.leaf l start after) = .ok x ↔ codec.read (.leaf l none none) = .ok x)
    (array : ∀ start entered items x, codec.read (.array start entered items) ≠ .ok x)
    (object : ∀ start entered members x, codec.read (.object start entered members) ≠ .ok x) :
  codec.Faithful .plain
  where
  read_iff {node value x} denotes := by
    rw [and_iff_right (Shape.Single.plain node), Reads]
    cases node with
    | leaf l start after =>
      obtain rfl := Except.ok.inj denotes
      rw [leaf]
      cases l <;> rfl
    | array start entered items =>
      obtain ⟨values, -, rfl⟩ := map_eq_ok denotes
      simp [array, Node.ofValue]
    | object start entered members =>
      obtain ⟨entries, -, rfl⟩ := map_eq_ok denotes
      simp [object, Node.ofValue]
    | absent | broken => simp [Node.toValue] at denotes

/-- A codec of objects is faithful if it is so for objects. -/
theorem Faithful.of_object {codec : Codec α} {shape : Shape}
    (leaf : ∀ l start after x, codec.read (.leaf l start after) ≠ .ok x)
    (array : ∀ start entered items x, codec.read (.array start entered items) ≠ .ok x)
    (object : ∀ {start entered members entries x}, Node.memberValues members = .ok entries →
      (codec.read (.object start entered members) = .ok x
        ↔ shape.Single (.object start entered members)
          ∧ codec.Reads (.object (sortEntries entries)) x)) :
  codec.Faithful shape
  where
  read_iff {node value x} denotes := by
    cases node with
    | leaf l start after =>
      obtain rfl := Except.ok.inj denotes
      cases l <;> simp [leaf, Reads, Node.ofValue, Leaf.toValue]
    | array start entered items =>
      obtain ⟨values, -, rfl⟩ := map_eq_ok denotes
      simp [array, Reads, Node.ofValue]
    | object start entered members =>
      obtain ⟨entries, parts, rfl⟩ := map_eq_ok denotes
      exact object parts
    | absent | broken => simp [Node.toValue] at denotes

instance faithful_boolean : boolean.Faithful .plain :=
  .of_leaf (fun l _ _ x => by cases l <;> simp [boolean]) (by simp [boolean]) (by simp [boolean])

instance faithful_string : string.Faithful .plain :=
  .of_leaf (fun l _ _ x => by cases l <;> simp [string]) (by simp [string]) (by simp [string])

instance faithful_number : number.Faithful .plain :=
  .of_leaf (fun l _ _ x => by cases l <;> simp [number]) (by simp [number]) (by simp [number])

instance faithful_whole (w : Width) : (whole w).Faithful .plain := by
  apply Faithful.of_leaf
  · intro l start after x
    match l with
    | .null | .boolean _ | .string _ | .number (.float _) => simp [whole]
    | .number (.integer value _) =>
      simp only [whole]
      split <;> simp
  · simp [whole]
  · simp [whole]

/-! ### Lists and dictionaries -/

theorem readItems_iff {item : Codec α} [faithful : item.Faithful .plain] :
    ∀ {items : Items} {values : List Value} {xs : List α}, Node.itemValues items = .ok values →
      (readItems item.read items = .ok xs ↔ List.Forall₂ item.Reads values xs)
  | .closed _, values, xs, denotes => by
    obtain rfl := Except.ok.inj denotes
    simp [readItems, eq_comm]
  | .broken _, values, xs, denotes => by simp [Node.itemValues] at denotes
  | .cons head tail, values, xs, denotes => by
    obtain ⟨value, rest, first, later, rfl⟩ := both_eq_ok.1 denotes
    rw [readItems, both_eq_ok, List.forall₂_cons_left_iff]
    simp only [faithful.read_iff first, readItems_iff later, Shape.Single.plain, true_and]
    grind

instance faithful_list (item : Codec α) [item.Faithful .plain] : (list item).Faithful .plain where
  read_iff {node value xs} denotes := by
    rw [and_iff_right (Shape.Single.plain node), reads_list]
    cases node with
    | array start entered items =>
      obtain ⟨values, parts, rfl⟩ := map_eq_ok denotes
      simp [list, readItems_iff parts]
    | leaf l start after =>
      obtain rfl := Except.ok.inj denotes
      cases l <;> simp [list, Leaf.toValue]
    | object start entered members =>
      obtain ⟨entries, -, rfl⟩ := map_eq_ok denotes
      simp [list]
    | absent | broken => simp [Node.toValue] at denotes

theorem readMembers_iff {item : Codec α} {entry : Shape} [faithful : item.Faithful entry] :
    ∀ {members : Members} {entries : List (String × Value)} {xs : List (String × α)},
      Node.memberValues members = .ok entries →
      (readMembers item.read members = .ok xs
        ↔ (∀ member ∈ members.split.1, entry.Single member.value)
          ∧ Corresponding item.Reads entries xs)
  | .closed _, entries, xs, denotes => by
    obtain rfl := Except.ok.inj denotes
    simp [readMembers, Members.split, Corresponding, eq_comm]
  | .broken _, entries, xs, denotes => by simp [Node.memberValues] at denotes
  | .cons key places node tail, entries, xs, denotes => by
    obtain ⟨value, rest, first, later, rfl⟩ := eq_cons_of_memberValues denotes
    rw [readMembers, both_eq_ok, Corresponding, List.forall₂_cons_left_iff, Members.split,
      List.forall_mem_cons]
    simp only [faithful.read_iff first, readMembers_iff later, Corresponding, Prod.exists]
    grind

/-- Where all values of entries are accepted, there are entries read from them. -/
theorem exists_corresponding {item : Codec α} {entries : List (String × Value)}
    (accepted : ∀ entry ∈ entries, item.Accepts entry.2) :
  ∃ xs, Corresponding item.Reads entries xs
  := by
  induction entries with
  | nil => exact ⟨[], .nil⟩
  | cons entry rest ih =>
    obtain ⟨⟨x, reads⟩, others⟩ := List.forall_mem_cons.1 accepted
    obtain ⟨xs, each⟩ := ih others
    exact ⟨(entry.1, x) :: xs, .cons ⟨rfl, reads⟩ each⟩

/-- The values of entries that are read are accepted. -/
theorem accepts_of_corresponding {item : Codec α} {entries : List (String × Value)}
    {xs : List (String × α)} (each : Corresponding item.Reads entries xs) :
  ∀ entry ∈ entries, item.Accepts entry.2
  := by
  induction each with
  | nil => simp
  | cons head _ ih => exact List.forall_mem_cons.2 ⟨⟨_, head.2⟩, ih⟩

/-- What is read from the entries of a text is, in a dictionary, what is read from its value. -/
theorem reads_dictionary_of_corresponding {item : Codec α} {entries : List (String × Value)}
    {xs : List (String × α)} (each : Corresponding item.Reads entries xs) :
  (dictionary item).Reads (.object (sortEntries entries)) (.ofList xs)
  := by
  apply reads_dictionary.2
  refine ⟨_, rfl, _, each.sortEntries, ?_⟩
  apply Dictionary.ext
  rw [Dictionary.entries_ofList, Dictionary.entries_ofList,
    sortEntries_eq_self (sortedEntries_sortEntries xs)]

instance faithful_dictionary (item : Codec α) {entry : Shape} [item.Faithful entry] :
    (dictionary item).Faithful (.dictionary item.Accepts entry) := by
  apply Faithful.of_object (by simp [dictionary]) (by simp [dictionary])
  intro start entered members entries d parts
  have accepted := (denote_of_memberValues parts).1.forall_iff item.Accepts
  constructor
  · intro read
    obtain ⟨xs, readXs, rfl⟩ := map_eq_ok read
    obtain ⟨single, each⟩ := (readMembers_iff parts).1 readXs
    exact ⟨.dictionary (accepted.2 (accepts_of_corresponding each)) single,
      reads_dictionary_of_corresponding each⟩
  · rintro ⟨_ | _ | ⟨all, single⟩, reads⟩
    obtain ⟨xs, each⟩ := exists_corresponding (accepted.1 all)
    obtain rfl : .ofList xs = d :=
      Except.ok.inj ((reads_dictionary_of_corresponding each).symm.trans reads)
    simp [dictionary, (readMembers_iff parts).2 ⟨single, each⟩, Except.map]

end Codec

/-! ### Records -/

namespace Fields

variable {α β : Type}

/-- The fields are read from the members of a text as they are read from its value, provided that
no field is repeated and that what is in the fields is as their shapes ask. -/
class Faithful (fields : Fields α) (shapes : outParam (List (String × Shape))) : Prop where
  read_iff {members : List Member} {entries : List (String × Value)} {missing : String → Fault}
    {x : α} (denote : Denote members entries) :
    fields.read members missing = .ok x
      ↔ Shape.Once shapes members ∧ fields.Reads (sortEntries entries) x

instance faithful_field (name : String) (codec : Codec α) {shape : Shape}
    [faithful : codec.Faithful shape] : (field name codec).Faithful [(name, shape)] where
  read_iff {members entries missing x} denote := by
    have looked := lookup_filter (· == name) entries.reverse name
    rw [List.filter_reverse, beq_self_eq_true, if_pos rfl] at looked
    have denoteNamed := denote.named name
    rw [read_field_iff, reads_field_sorted, ← looked, Shape.Once, List.forall_mem_singleton]
    dsimp only
    cases found : named name members with
    | nil =>
      rw [found] at denoteNamed
      obtain none := List.forall₂_nil_left_iff.1 denoteNamed
      simp [none]
    | cons member others =>
      rw [found] at denoteNamed
      obtain ⟨⟨key, value⟩, rest, ⟨same, denotes⟩, later, shape⟩ :=
        List.forall₂_cons_left_iff.1 denoteNamed
      cases others with
      | nil =>
        obtain rfl := List.forall₂_nil_left_iff.1 later
        obtain rfl : key = name := by
          have mem : (key, value) ∈ entries.filter (·.1 == name) := by simp [shape]
          simpa using (List.mem_filter.1 mem).2
        have only : [(key, value)].reverse.lookup key = some value := by simp
        rw [shape, only]
        simp [faithful.read_iff denotes]
      | cons again others =>
        -- The value has the last of these members, but the text is not read and repeats the field.
        simp

instance faithful_and (a : Fields α) (b : Fields β) {shapes others : List (String × Shape)}
    [faithfulA : a.Faithful shapes] [faithfulB : b.Faithful others] :
    (a.and b).Faithful (shapes ++ others) where
  read_iff {members entries missing x} denote := by
    obtain ⟨x, y⟩ := x
    have once : Shape.Once (shapes ++ others) members
        ↔ Shape.Once shapes members ∧ Shape.Once others members := List.forall_mem_append
    rw [reads_and, once, Fields.and, earliest_eq_ok, faithfulA.read_iff denote,
      faithfulB.read_iff denote]
    tauto

end Fields

namespace Codec

variable {α σ : Type}

/-- A record with faithful fields is faithful to the shape that lists them. -/
theorem faithful_record {name : String} {fields : Fields α} {make : α → Dictionary Value → σ}
    {parts : σ → α × Dictionary Value} {shapes listed : List (String × Shape)}
    [faithful : fields.Faithful shapes] (same : shapes = listed) :
  (record name fields make parts).Faithful (.record listed)
  := by
  subst same
  apply Faithful.of_object (by simp [record]) (by simp [record])
  intro start entered members entries x denotes
  obtain ⟨denote, after, ending⟩ := denote_of_memberValues denotes
  have others : Fields.others fields.names (sortEntries entries)
      = Fields.others fields.names entries := by
    have sorted := Fields.others_sorted fields.names entries
    rwa [sortedMembers_of_memberValues denotes] at sorted
  rw [read_record_object_iff ending (Fields.readOthers_of_denote denote fields.names),
    Shape.single_record_iff, Reads, read_record, others]
  simp only [faithful.read_iff denote]
  tauto

end Codec

end ConfigTemplate.Json
