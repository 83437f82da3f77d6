import ConfigTemplate.Proofs.Json.CanonicalValue
import ConfigTemplate.Proofs.Json.ReadingSound

/-!
# The value of a document

A document that has a value is unbroken, and its value is canonical: `canonical_toValue`.  The
members of its objects are kept as the text has them, also those that a later member of the same
name replaces, and each of them has a value of its own: `denote_of_memberValues`.
-/

namespace ConfigTemplate.Json

/-! ### The members of an object -/

/-- The members have the names and the values of the entries. -/
def Denote (members : List Member) (entries : List (String × Value)) : Prop :=
  List.Forall₂ (fun m e => m.key = e.1 ∧ m.value.toValue = .ok e.2) members entries

/-- The values of members are that of the first one and those of the others. -/
theorem eq_cons_of_memberValues {key : String} {places : MemberPlaces} {node : Node}
    {tail : Members} {entries : List (String × Value)}
    (h : Node.memberValues (.cons key places node tail) = .ok entries) :
  ∃ value rest, node.toValue = .ok value ∧ Node.memberValues tail = .ok rest
    ∧ entries = (key, value) :: rest
  := by
  rw [Node.memberValues] at h
  obtain ⟨value, first, h⟩ := bind_eq_ok h
  obtain ⟨rest, later, h⟩ := bind_eq_ok h
  exact ⟨value, rest, first, later, (Except.ok.inj h).symm⟩

theorem memberValues_cons {key : String} {places : MemberPlaces} {node : Node} {tail : Members}
    {value : Value} {entries : List (String × Value)} (first : node.toValue = .ok value)
    (later : Node.memberValues tail = .ok entries) :
  Node.memberValues (.cons key places node tail) = .ok ((key, value) :: entries)
  := by
  rw [Node.memberValues, first, later]
  rfl

/-- Where the members of an object have values, the object has an end. -/
theorem denote_of_memberValues :
    ∀ {members : Members} {entries : List (String × Value)},
      Node.memberValues members = .ok entries →
      Denote members.split.1 entries ∧ ∃ after, members.split.2 = .ok after
  | .closed after, entries, h => by
    obtain rfl := Except.ok.inj h
    exact ⟨.nil, after, rfl⟩
  | .broken fault, entries, h => by simp [Node.memberValues] at h
  | .cons key places node tail, entries, h => by
    obtain ⟨value, rest, first, later, rfl⟩ := eq_cons_of_memberValues h
    obtain ⟨denote, ending⟩ := denote_of_memberValues later
    exact ⟨.cons ⟨rfl, first⟩ denote, ending⟩

/-! ### Canonical values -/

mutual

/-- The value of a part is canonical. -/
theorem canonical_toValue :
    ∀ {node : Node} {value : Value}, node.toValue = .ok value → value.Canonical
  | .leaf .null _ _, value, h => by
    obtain rfl := Except.ok.inj h
    exact .null
  | .leaf (.boolean b) _ _, value, h => by
    obtain rfl := Except.ok.inj h
    exact .boolean b
  | .leaf (.number n) _ _, value, h => by
    obtain rfl := Except.ok.inj h
    exact .number n
  | .leaf (.string s) _ _, value, h => by
    obtain rfl := Except.ok.inj h
    exact .string s
  | .array _ _ items, value, h => by
    rw [Node.toValue] at h
    obtain ⟨values, parts, rfl⟩ := map_eq_ok h
    exact .array (canonical_itemValues parts)
  | .object _ _ members, value, h => by
    rw [Node.toValue] at h
    obtain ⟨entries, parts, rfl⟩ := map_eq_ok h
    apply Value.Canonical.object (sortedEntries_sortEntries _)
    intro member mem
    exact canonical_memberValues parts member (mem_of_mem_sortEntries mem)
  | .absent place, value, h => by simp [Node.toValue] at h
  | .broken start fault, value, h => by simp [Node.toValue] at h

theorem canonical_itemValues :
    ∀ {items : Items} {values : List Value}, Node.itemValues items = .ok values →
      ∀ value ∈ values, value.Canonical
  | .closed _, values, h => by
    obtain rfl := Except.ok.inj h
    nofun
  | .broken fault, values, h => by simp [Node.itemValues] at h
  | .cons head tail, values, h => by
    rw [Node.itemValues] at h
    obtain ⟨value, first, h⟩ := bind_eq_ok h
    obtain ⟨rest, later, h⟩ := bind_eq_ok h
    obtain rfl := Except.ok.inj h
    exact List.forall_mem_cons.2 ⟨canonical_toValue first, canonical_itemValues later⟩

theorem canonical_memberValues :
    ∀ {members : Members} {entries : List (String × Value)},
      Node.memberValues members = .ok entries → ∀ entry ∈ entries, entry.2.Canonical
  | .closed _, entries, h => by
    obtain rfl := Except.ok.inj h
    nofun
  | .broken fault, entries, h => by simp [Node.memberValues] at h
  | .cons key _ node tail, entries, h => by
    obtain ⟨value, rest, first, later, rfl⟩ := eq_cons_of_memberValues h
    exact List.forall_mem_cons.2 ⟨canonical_toValue first, canonical_memberValues later⟩

end

/-- There is nothing to sort in the values of members. -/
theorem sortedMembers_of_memberValues {members : Members} {entries : List (String × Value)}
    (h : Node.memberValues members = .ok entries) :
  Value.sortedMembers entries = entries
  := by
  have same : ∀ entry ∈ entries, (entry.1, entry.2.sorted) = entry := by
    intro entry mem
    rw [(canonical_memberValues h entry mem).sorted_eq]
  rw [Value.sortedMembers_eq_map, List.map_congr_left same, List.map_id']

end ConfigTemplate.Json
