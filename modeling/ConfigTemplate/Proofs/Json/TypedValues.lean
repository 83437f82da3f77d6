import ConfigTemplate.Json.Codec
import ConfigTemplate.Proofs.Dictionary
import Mathlib.Tactic.Common

/-!
# Typed values

What a codec makes of a value is determined part by part: a record is read from an object exactly
if each of its fields is read from the member of its name, and a list or a dictionary exactly if
all of its parts are.
-/

namespace ConfigTemplate.Json

/-! ### Values as documents -/

mutual

/-- A value as a document has that value, with the members of its objects sorted. -/
theorem toValue_ofValue :
    ∀ value : Value, (Node.ofValue value).toValue = .ok value.sorted
  | .null | .boolean _ | .number _ | .string _ => rfl
  | .array items => by
    rw [Node.ofValue, Node.toValue, itemValues_ofItems]
    rfl
  | .object members => by
    rw [Node.ofValue, Node.toValue, memberValues_ofMembers]
    rfl

theorem itemValues_ofItems :
    ∀ items : List Value, Node.itemValues (Node.ofItems items) = .ok (Value.sortedItems items)
  | [] => rfl
  | item :: rest => by
    rw [Node.ofItems, Node.itemValues, toValue_ofValue item, itemValues_ofItems rest]
    rfl

theorem memberValues_ofMembers :
    ∀ members : List (String × Value),
      Node.memberValues (Node.ofMembers members) = .ok (Value.sortedMembers members)
  | [] => rfl
  | (name, value) :: rest => by
    rw [Node.ofMembers, Node.memberValues, toValue_ofValue value, memberValues_ofMembers rest]
    rfl

end

/-- A member of an object as a member of a document without places. -/
def Member.ofEntry (entry : String × Value) : Member :=
  ⟨entry.1, .nowhere, Node.ofValue entry.2⟩

theorem split_ofMembers (members : List (String × Value)) :
  (Node.ofMembers members).split = (members.map Member.ofEntry, .ok none)
  := by
  induction members with
  | nil => rfl
  | cons member rest ih => simp [Node.ofMembers, Members.split, ih, Member.ofEntry]

/-! ### Both of two results -/

theorem earliest_eq_ok {α β : Type} {a : Except Ranked α} {b : Except Ranked β} {x : α} {y : β} :
  earliest a b = .ok (x, y) ↔ a = .ok x ∧ b = .ok y
  := by
  cases a <;> cases b <;> simp [earliest]

/-! ### Fields -/

namespace Fields

variable {α β : Type}

/-- The fields are read from the members of an object. -/
def Reads (fields : Fields α) (entries : List (String × Value)) (values : α) : Prop :=
  fields.read (entries.map Member.ofEntry) (missingAt (.ok none)) = .ok values

@[simp]
theorem reads_and {a : Fields α} {b : Fields β} {entries : List (String × Value)} {x : α} {y : β} :
  (a.and b).Reads entries (x, y) ↔ a.Reads entries x ∧ b.Reads entries y
  := earliest_eq_ok

/-- In an object without repetitions a name occurs at most once. -/
theorem occurrences_eq {name : String} {entries : List (String × Value)}
    (unique : (entries.map Prod.fst).Nodup) (start : Nat) :
  (((entries.map Member.ofEntry).zipIdx start).filter fun (member, _) => member.key == name).map
      Prod.fst
    = ((entries.lookup name).map fun value => Member.ofEntry (name, value)).toList
  := by
  induction entries generalizing start with
  | nil => rfl
  | cons entry rest ih =>
    obtain ⟨other, value⟩ := entry
    rw [List.map_cons, List.nodup_cons] at unique
    rw [List.map_cons, List.zipIdx_cons, List.filter_cons, lookup_cons_eq]
    by_cases same : name = other
    · subst same
      have none : rest.lookup name = none := by
        rw [List.lookup_eq_none_iff]
        intro p mem
        have differ : name ≠ p.1 := by
          intro same
          exact unique.1 (List.mem_map.2 ⟨p, mem, same.symm⟩)
        simpa using differ
      simpa [Member.ofEntry, none] using ih unique.2 (start + 1)
    · simpa [Member.ofEntry, same, Ne.symm same] using ih unique.2 (start + 1)

/-- A field is read from the member of its name. -/
theorem reads_field {name : String} {codec : Codec α} {entries : List (String × Value)}
    (unique : (entries.map Prod.fst).Nodup) {x : α} :
  (field name codec).Reads entries x
    ↔ ∃ value, entries.lookup name = some value ∧ codec.read (Node.ofValue value) = .ok x
  := by
  have found : (occurrences name (entries.map Member.ofEntry)).map Prod.fst = _ :=
    occurrences_eq unique 0
  simp only [Reads, field]
  cases wanted : entries.lookup name with
  | none =>
    rw [wanted] at found
    simp [List.map_eq_nil_iff.1 found]
  | some value =>
    rw [wanted] at found
    obtain ⟨⟨member, i⟩, rest, shape, rfl, none⟩ := List.map_eq_cons_iff.1 found
    rw [shape, List.map_eq_nil_iff.1 none]
    cases read : codec.read (Node.ofValue value) with
    | error fault => simp [Member.ofEntry, read]
    | ok y => simp [Member.ofEntry, read]

/-- The members that are no fields, from the members of an object. -/
def others (names : List String) (entries : List (String × Value)) : Dictionary Value :=
  .ofList ((entries.filter (!names.contains ·.1)).map fun (name, value) => (name, value.sorted))

/-- The values of the members that are no fields, each member with its number. -/
def readNumbered (names : List String) (numbered : List (Member × Nat)) :
    Except Ranked (List (String × Value)) :=
  (numbered.filter fun (member, _) => !names.contains member.key).mapM fun (member, i) =>
    match member.value.toValue with
    | .ok value => .ok (member.key, value)
    | .error fault => .error (i, fault)

theorem readNumbered_eq (names : List String) (entries : List (String × Value)) (start : Nat) :
  readNumbered names ((entries.map Member.ofEntry).zipIdx start)
    = .ok ((entries.filter (!names.contains ·.1)).map fun (name, value) => (name, value.sorted))
  := by
  unfold readNumbered
  induction entries generalizing start with
  | nil => rfl
  | cons entry rest ih =>
    obtain ⟨name, value⟩ := entry
    rw [List.map_cons, List.zipIdx_cons, List.filter_cons, List.filter_cons]
    cases known : names.contains name with
    | true =>
      have isField : name ∈ names := by simpa using known
      simpa [Member.ofEntry, isField] using ih (start + 1)
    | false =>
      simp only [Member.ofEntry, known, Bool.not_false, ↓reduceIte, List.mapM_cons,
        toValue_ofValue] at ih ⊢
      rw [ih (start + 1)]
      rfl

/-- The other members of an object are always read. -/
theorem readOthers_eq (names : List String) (entries : List (String × Value)) :
  readOthers names (entries.map Member.ofEntry) = .ok (others names entries)
  := congrArg (Except.map Dictionary.ofList) (readNumbered_eq names entries 0)

end Fields

/-! ### Records, lists and dictionaries -/

namespace Codec

variable {α σ : Type}

/-- A record is read from a complete object exactly if its fields are. -/
theorem read_record_object_iff {name : String} {fields : Fields α}
    {make : α → Dictionary Value → σ} {parts : σ → α × Dictionary Value} {start entered : Place}
    {members : Members} {after : Place} {extra : Dictionary Value} {x : σ}
    (ending : members.split.2 = .ok after)
    (others : Fields.readOthers fields.names members.split.1 = .ok extra) :
  (record name fields make parts).read (.object start entered members) = .ok x
    ↔ ∃ values, fields.read members.split.1 (Fields.missingAt (.ok after)) = .ok values
      ∧ make values extra = x
  := by
  simp only [record, ending, others, Fields.readEnd]
  cases known : fields.read members.split.1 (Fields.missingAt (.ok after)) with
  | error fault => simp [earliest]
  | ok values => simp [earliest]

/-- A record is read from an object exactly if its fields are. -/
theorem read_record {name : String} {fields : Fields α} {make : α → Dictionary Value → σ}
    {parts : σ → α × Dictionary Value} {entries : List (String × Value)} {result : σ} :
  (record name fields make parts).read (Node.ofValue (.object entries)) = .ok result
    ↔ ∃ values, fields.Reads entries values
      ∧ make values (Fields.others fields.names entries) = result
  := by
  have split := split_ofMembers entries
  have others : Fields.readOthers fields.names (Node.ofMembers entries).split.1
      = .ok (Fields.others fields.names entries) := by
    rw [split, Fields.readOthers_eq]
  rw [Node.ofValue, read_record_object_iff (congrArg Prod.snd split) others, split]
  rfl

/-! ### Values that a codec accepts -/

/-- Something is read from the value. -/
def Accepts (codec : Codec α) (value : Value) : Prop :=
  ∃ x, codec.read (Node.ofValue value) = .ok x

end Codec

/-- Something is read from the members of an object. -/
def Fields.Accept {α : Type} (fields : Fields α) (entries : List (String × Value)) : Prop :=
  ∃ values, fields.Reads entries values

namespace Codec

variable {β : Type}

theorem accepts_boolean (b : Bool) :
  boolean.Accepts (.boolean b)
  := ⟨b, rfl⟩

theorem accepts_string (s : String) :
  string.Accepts (.string s)
  := ⟨s, rfl⟩

theorem accepts_number (n : Number) :
  number.Accepts (.number n)
  := ⟨n, rfl⟩

/-- An integer is accepted if it has the width. -/
theorem accepts_whole {w : Width} {value : Int}
    {fits : -0x8000000000000000 ≤ value ∧ value < 0x10000000000000000} :
  (whole w).Accepts (.number (.integer value fits)) ↔ w.least ≤ value ∧ value ≤ w.greatest
  := by
  simp only [Accepts, whole, Node.ofValue]
  split
  · next inRange => simp [inRange]
  · next outside => simp [outside]

/-- A list is accepted if its items are. -/
theorem accepts_list {item : Codec α} {items : List Value} :
  (list item).Accepts (.array items) ↔ ∀ value ∈ items, item.Accepts value
  := by
  simp only [Accepts, list, Node.ofValue]
  induction items with
  | nil => simp [Node.ofItems, readItems]
  | cons value rest ih =>
    rw [List.forall_mem_cons, ← ih, Node.ofItems, readItems]
    cases item.read (Node.ofValue value) with
    | error fault => simp [bind, Except.bind]
    | ok x =>
      cases readItems item.read (Node.ofItems rest) with
      | error fault => simp [bind, Except.bind]
      | ok xs => simp [bind, Except.bind, pure, Except.pure]

/-- A dictionary is accepted if its values are. -/
theorem accepts_dictionary {item : Codec α} {members : List (String × Value)} :
  (dictionary item).Accepts (.object members) ↔ ∀ member ∈ members, item.Accepts member.2
  := by
  have step : (∃ x, readMembers item.read (Node.ofMembers members) = .ok x)
      ↔ ∀ member ∈ members, item.Accepts member.2 := by
    induction members with
    | nil => simp [Node.ofMembers, readMembers]
    | cons member rest ih =>
      obtain ⟨name, value⟩ := member
      rw [List.forall_mem_cons, ← ih, Node.ofMembers, readMembers, Accepts]
      cases item.read (Node.ofValue value) with
      | error fault => simp [bind, Except.bind]
      | ok x =>
        cases readMembers item.read (Node.ofMembers rest) with
        | error fault => simp [bind, Except.bind]
        | ok xs => simp [bind, Except.bind, pure, Except.pure]
  rw [← step]
  simp only [Accepts, dictionary, Node.ofValue]
  cases readMembers item.read (Node.ofMembers members) with
  | error fault => simp [Except.map]
  | ok xs => simp [Except.map]

/-- A record is accepted if its fields are. -/
@[simp]
theorem accepts_record {name : String} {fields : Fields α} {make : α → Dictionary Value → σ}
    {parts : σ → α × Dictionary Value} {entries : List (String × Value)} :
  (record name fields make parts).Accepts (.object entries) ↔ fields.Accept entries
  := by
  simp only [Accepts, read_record, Fields.Accept]
  constructor
  · rintro ⟨_, values, reads, -⟩
    exact ⟨values, reads⟩
  · rintro ⟨values, reads⟩
    exact ⟨_, values, reads, rfl⟩

end Codec

namespace Fields

variable {α β : Type} {entries : List (String × Value)}

@[simp]
theorem accept_and {a : Fields α} {b : Fields β} :
  (a.and b).Accept entries ↔ a.Accept entries ∧ b.Accept entries
  := by
  simp only [Accept, Prod.exists, reads_and]
  constructor
  · rintro ⟨x, y, readsA, readsB⟩
    exact ⟨⟨x, readsA⟩, y, readsB⟩
  · rintro ⟨⟨x, readsA⟩, y, readsB⟩
    exact ⟨x, y, readsA, readsB⟩

theorem accept_field {name : String} {codec : Codec α}
    (unique : (entries.map Prod.fst).Nodup) :
  (field name codec).Accept entries
    ↔ ∃ value, entries.lookup name = some value ∧ codec.Accepts value
  := by
  simp only [Accept, reads_field unique, Codec.Accepts]
  constructor
  · rintro ⟨x, value, wanted, reads⟩
    exact ⟨value, wanted, x, reads⟩
  · rintro ⟨value, wanted, x, reads⟩
    exact ⟨x, value, wanted, reads⟩

/-- Of sorted members a field takes the last one of its name. -/
@[simp]
theorem accept_field_sorted {name : String} {codec : Codec α} :
  (field name codec).Accept (sortEntries entries)
    ↔ ∃ value, entries.reverse.lookup name = some value ∧ codec.Accepts value
  := by
  rw [accept_field (sortedEntries_sortEntries entries).nodup, lookup_sortEntries]

end Fields

end ConfigTemplate.Json
