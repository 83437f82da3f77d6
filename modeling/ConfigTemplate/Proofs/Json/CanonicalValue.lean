import ConfigTemplate.Json.Value
import ConfigTemplate.Proofs.Dictionary

/-!
# Canonical values

A value is canonical if the members of each of its objects are in increasing order of names, no
name occurring twice.  Canonical values are what documents are read as: sorting a value makes it
canonical, and leaves a canonical value alone.
-/

namespace ConfigTemplate.Json.Value

/-- The members of every object of the value are in strictly increasing order of names. -/
inductive Canonical : Value → Prop
  | null : Canonical .null
  | boolean (b : Bool) : Canonical (.boolean b)
  | number (n : Number) : Canonical (.number n)
  | string (s : String) : Canonical (.string s)
  | array {items : List Value} (each : ∀ item ∈ items, Canonical item) : Canonical (.array items)
  | object {members : List (String × Value)} (order : SortedEntries members)
      (each : ∀ member ∈ members, Canonical member.2) : Canonical (.object members)

/-! ### Sorting part by part -/

theorem sortedItems_eq_map (items : List Value) :
  sortedItems items = items.map sorted
  := by
  induction items with
  | nil => rfl
  | cons item rest ih => rw [sortedItems, ih, List.map_cons]

theorem sortedMembers_eq_map (members : List (String × Value)) :
  sortedMembers members = members.map fun (name, value) => (name, value.sorted)
  := by
  induction members with
  | nil => rfl
  | cons member rest ih => rw [sortedMembers, ih, List.map_cons]

theorem sorted_array (items : List Value) :
  (array items).sorted = .array (items.map sorted)
  := by
  rw [sorted, sortedItems_eq_map]

theorem sorted_object (members : List (String × Value)) :
  (object members).sorted = .object (sortEntries (sortedMembers members))
  := by
  rw [sorted]

/-- The last member of a name in sorted members is the sorted last one. -/
theorem lookup_reverse_sortedMembers (members : List (String × Value)) (name : String) :
  (sortedMembers members).reverse.lookup name = (members.reverse.lookup name).map sorted
  := by
  rw [sortedMembers_eq_map, ← List.map_reverse, lookup_map]

/-! ### Sorting and canonical values -/

/-- Sorting leaves a canonical value alone. -/
theorem Canonical.sorted_eq {v : Value} (h : v.Canonical) :
  v.sorted = v
  := by
  induction h with
  | null | boolean | number | string => rfl
  | @array items each ih =>
    rw [sorted_array, List.map_congr_left ih, List.map_id']
  | @object members order each ih =>
    have same : ∀ member ∈ members, (member.1, member.2.sorted) = member := by
      intro member mem
      rw [ih member mem]
    rw [sorted_object, sortedMembers_eq_map, List.map_congr_left same, List.map_id',
      sortEntries_eq_self order]

mutual

/-- Sorting makes a value canonical. -/
theorem canonical_sorted : ∀ v : Value, v.sorted.Canonical
  | .null => .null
  | .boolean b => .boolean b
  | .number n => .number n
  | .string s => .string s
  | .array items => .array (canonical_sortedItems items)
  | .object members =>
    .object (sortedEntries_sortEntries _)
      fun member mem => canonical_sortedMembers members member (mem_of_mem_sortEntries mem)

theorem canonical_sortedItems :
    ∀ items : List Value, ∀ item ∈ sortedItems items, item.Canonical
  | [] => by simp [sortedItems]
  | item :: rest => by
    rw [sortedItems, List.forall_mem_cons]
    exact ⟨canonical_sorted item, canonical_sortedItems rest⟩

theorem canonical_sortedMembers :
    ∀ members : List (String × Value), ∀ member ∈ sortedMembers members, member.2.Canonical
  | [] => by simp [sortedMembers]
  | (name, value) :: rest => by
    rw [sortedMembers, List.forall_mem_cons]
    exact ⟨canonical_sorted value, canonical_sortedMembers rest⟩

end

/-- Sorting twice is sorting once. -/
@[simp]
theorem sorted_comp_sorted :
  sorted ∘ sorted = sorted
  := by
  funext v
  exact (canonical_sorted v).sorted_eq

end ConfigTemplate.Json.Value
