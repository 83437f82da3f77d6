import ConfigTemplate.Proofs.Json.Repetition

/-!
# Thorough codecs

A record keeps members that it does not look into, but it is not read if the text breaks off in one
of them.  A codec is thorough if what it reads has a value throughout.  Leaves have values, and the
codec of a list, of a dictionary or of a record is thorough if those of its parts are.
-/

namespace ConfigTemplate.Json

/-! ### The members of an object -/

/-- An object that has an end has a value if its members have values. -/
theorem exists_memberValues :
    ∀ {members : Members} {after : Place}, members.split.2 = .ok after →
      (∀ member ∈ members.split.1, ∃ value, member.value.toValue = .ok value) →
      ∃ entries, Node.memberValues members = .ok entries
  | .closed _, _, _, _ => ⟨[], rfl⟩
  | .broken _, _, ending, _ => by simp [Members.split] at ending
  | .cons key places node tail, after, ending, each => by
    rw [Members.split, List.forall_mem_cons] at each
    obtain ⟨⟨value, first⟩, others⟩ := each
    have tailEnding : tail.split.2 = .ok after := ending
    obtain ⟨entries, later⟩ := exists_memberValues tailEnding others
    exact ⟨_, memberValues_cons first later⟩

/-- What is done for a whole list has a result at each place of it. -/
theorem exists_of_mapM {ε α β : Type} {f : α → Except ε β} {xs : List α} {ys : List β}
    (h : xs.mapM f = .ok ys) :
  ∀ x ∈ xs, ∃ y, f x = .ok y
  := by
  induction xs generalizing ys with
  | nil => nofun
  | cons x rest ih =>
    rw [List.mapM_cons, Codec.both_eq_ok] at h
    obtain ⟨y, ys, first, later, -⟩ := h
    exact List.forall_mem_cons.2 ⟨⟨y, first⟩, ih later⟩

/-- The members that a record keeps have values. -/
theorem Fields.exists_value_of_readOthers {names : List String} {members : List Member}
    {extra : Dictionary Value} (read : readOthers names members = .ok extra) :
  ∀ member ∈ members, member.key ∉ names → ∃ value, member.value.toValue = .ok value
  := by
  obtain ⟨entries, results, -⟩ := map_eq_ok read
  intro member mem other
  obtain ⟨i, found⟩ := List.getElem?_of_mem mem
  have numbered : (member, i) ∈ members.zipIdx.filter fun entry => !names.contains entry.1.key := by
    simpa [List.mem_zipIdx_iff_getElem?] using ⟨found, other⟩
  obtain ⟨entry, result⟩ := exists_of_mapM results _ numbered
  cases denotes : member.value.toValue with
  | ok value => exact ⟨value, rfl⟩
  | error fault => simp [denotes] at result

/-! ### Leaves, lists and dictionaries -/

namespace Codec

variable {α : Type}

/-- The codec reads nothing but what has a value. -/
class Thorough (codec : Codec α) : Prop where
  exists_value {node : Node} {x : α} (read : codec.read node = .ok x) :
    ∃ value, node.toValue = .ok value

/-- A codec that reads leaves alone is thorough. -/
theorem Thorough.of_leaf {codec : Codec α}
    (leaf : ∀ node x, codec.read node = .ok x → ∃ l start after, node = .leaf l start after) :
  codec.Thorough
  where
  exists_value {node x} read := by
    obtain ⟨l, start, after, rfl⟩ := leaf node x read
    exact ⟨l.toValue, rfl⟩

instance thorough_boolean : boolean.Thorough :=
  .of_leaf fun node x read => by cases node <;> simp_all [boolean]

instance thorough_string : string.Thorough :=
  .of_leaf fun node x read => by cases node <;> simp_all [string]

instance thorough_number : number.Thorough :=
  .of_leaf fun node x read => by cases node <;> simp_all [number]

instance thorough_whole (w : Width) : (whole w).Thorough :=
  .of_leaf fun node x read => by cases node <;> simp_all [whole]

theorem exists_itemValues_of_readItems {item : Codec α} [thorough : item.Thorough] :
    ∀ {items : Items} {xs : List α}, readItems item.read items = .ok xs →
      ∃ values, Node.itemValues items = .ok values
  | .closed _, _, _ => ⟨[], rfl⟩
  | .broken _, _, read => by simp [readItems] at read
  | .cons head tail, _, read => by
    rw [readItems, both_eq_ok] at read
    obtain ⟨x, xs, readHead, readTail, -⟩ := read
    obtain ⟨value, first⟩ := thorough.exists_value readHead
    obtain ⟨values, later⟩ := exists_itemValues_of_readItems readTail
    rw [Node.itemValues, first, later]
    exact ⟨_, rfl⟩

instance thorough_list (item : Codec α) [item.Thorough] : (list item).Thorough where
  exists_value {node xs} read := by
    cases node with
    | array start entered items =>
      obtain ⟨values, parts⟩ := exists_itemValues_of_readItems read
      exact ⟨.array values, by rw [Node.toValue, parts]; rfl⟩
    | leaf | object | absent | broken => simp [list] at read

theorem exists_memberValues_of_readMembers {item : Codec α} [thorough : item.Thorough] :
    ∀ {members : Members} {xs : List (String × α)}, readMembers item.read members = .ok xs →
      ∃ entries, Node.memberValues members = .ok entries
  | .closed _, _, _ => ⟨[], rfl⟩
  | .broken _, _, read => by simp [readMembers] at read
  | .cons key places node tail, _, read => by
    rw [readMembers, both_eq_ok] at read
    obtain ⟨x, xs, readHead, readTail, -⟩ := read
    obtain ⟨value, first⟩ := thorough.exists_value readHead
    obtain ⟨entries, later⟩ := exists_memberValues_of_readMembers readTail
    exact ⟨_, memberValues_cons first later⟩

instance thorough_dictionary (item : Codec α) [item.Thorough] : (dictionary item).Thorough where
  exists_value {node d} read := by
    cases node with
    | object start entered members =>
      obtain ⟨xs, readXs, -⟩ := map_eq_ok read
      obtain ⟨entries, parts⟩ := exists_memberValues_of_readMembers readXs
      exact ⟨.object (sortEntries entries), by rw [Node.toValue, parts]; rfl⟩
    | leaf | array | absent | broken => simp [dictionary] at read

end Codec

/-! ### Records -/

namespace Fields

variable {α β : Type}

/-- The fields are read from members that have values. -/
class Thorough (fields : Fields α) : Prop where
  exists_value {members : List Member} {missing : String → Fault} {x : α}
    (read : fields.read members missing = .ok x) :
    ∀ member ∈ members, member.key ∈ fields.names → ∃ value, member.value.toValue = .ok value

instance thorough_field (name : String) (codec : Codec α) [thorough : codec.Thorough] :
    (field name codec).Thorough where
  exists_value read member mem isField := by
    obtain ⟨first, only, readFirst⟩ := read_field_iff.1 read
    have isNamed : member ∈ named name _ := List.mem_filter.2 ⟨mem, by simpa [field] using isField⟩
    rw [only, List.mem_singleton] at isNamed
    subst isNamed
    exact thorough.exists_value readFirst

instance thorough_and (a : Fields α) (b : Fields β) [thoroughA : a.Thorough]
    [thoroughB : b.Thorough] : (a.and b).Thorough where
  exists_value read member mem isField := by
    obtain ⟨readA, readB⟩ := earliest_eq_ok.1 read
    rcases List.mem_append.1 isField with inA | inB
    · exact thoroughA.exists_value readA member mem inA
    · exact thoroughB.exists_value readB member mem inB

end Fields

namespace Codec

variable {α σ : Type} {name : String} {fields : Fields α} {make : α → Dictionary Value → σ}
  {parts : σ → α × Dictionary Value}

/-- A record is read from an object that ends, together with the members that it keeps. -/
theorem exists_of_read_record {node : Node} {x : σ}
    (read : (record name fields make parts).read node = .ok x) :
  ∃ start entered members after values extra, node = .object start entered members
    ∧ members.split.2 = .ok after
    ∧ fields.read members.split.1 (Fields.missingAt (.ok after)) = .ok values
    ∧ Fields.readOthers fields.names members.split.1 = .ok extra
  := by
  cases node with
  | object start entered members =>
    simp only [record] at read
    split at read
    · next values extra all =>
      obtain ⟨both, ending⟩ := earliest_eq_ok.1 all
      obtain ⟨known, others⟩ := earliest_eq_ok.1 both
      cases final : members.split.2 with
      | ok after =>
        rw [final] at known
        exact ⟨start, entered, members, after, values, extra, rfl, final, known, others⟩
      | error fault => simp [final, Fields.readEnd] at ending
    · simp at read
  | leaf | array | absent | broken => simp [record] at read

instance thorough_record [thorough : fields.Thorough] :
    (record name fields make parts).Thorough where
  exists_value read := by
    obtain ⟨start, entered, members, after, values, extra, rfl, final, known, others⟩ :=
      exists_of_read_record read
    have each : ∀ member ∈ members.split.1, ∃ value, member.value.toValue = .ok value := by
      intro member mem
      by_cases isField : member.key ∈ fields.names
      · exact thorough.exists_value known member mem isField
      · exact Fields.exists_value_of_readOthers others member mem isField
    obtain ⟨entries, parts⟩ := exists_memberValues final each
    exact ⟨.object (sortEntries entries), by rw [Node.toValue, parts]; rfl⟩

end Codec

end ConfigTemplate.Json
