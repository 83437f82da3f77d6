import ConfigTemplate.Dictionary
import Mathlib.Data.List.Forall2
import Mathlib.Tactic.Common

/-!
# Looking up names

An insertion decides about its own name and leaves the others alone, so of a list that is sorted the
last entry of a name stays.  Sorted entries are determined by what is found under the names, and
sorting keeps two lists of entries in correspondence.
-/

universe u

namespace ConfigTemplate

variable {α β : Type u}

section

variable {κ : Type} [BEq κ] [LawfulBEq κ] [DecidableEq κ]

theorem lookup_cons_eq (wanted name : κ) (value : α) (entries : List (κ × α)) :
  ((name, value) :: entries).lookup wanted
    = if wanted = name then some value else entries.lookup wanted
  := by
  by_cases same : wanted = name
  · simp [same]
  · simp [List.lookup_cons, same, beq_false_of_ne same]

theorem lookup_filter (keep : κ → Bool) (entries : List (κ × α)) (wanted : κ) :
  (entries.filter fun entry => keep entry.1).lookup wanted
    = if keep wanted then entries.lookup wanted else none
  := by
  induction entries with
  | nil => simp
  | cons head rest ih =>
    rw [List.filter_cons, lookup_cons_eq]
    grind [lookup_cons_eq]

end

/-- An insertion decides about its own name alone. -/
theorem lookup_insertEntry (name : String) (value : α) (entries : List (String × α))
    (wanted : String) :
  (insertEntry name value entries).lookup wanted
    = if wanted = name then some value else entries.lookup wanted
  := by
  induction entries with
  | nil => rw [insertEntry, lookup_cons_eq]
  | cons head rest ih =>
    obtain ⟨other, held⟩ := head
    unfold insertEntry
    split
    · rw [lookup_cons_eq]
    · next notBefore =>
      split
      · next after =>
        have differ : name ≠ other := by
          rintro rfl
          exact String.lt_irrefl name after
        rw [lookup_cons_eq, lookup_cons_eq, ih]
        grind
      · next notAfter =>
        have same : name = other :=
          String.le_antisymm (String.not_lt.1 notAfter) (String.not_lt.1 notBefore)
        rw [lookup_cons_eq, lookup_cons_eq, same]
        grind

/-- Entries inserted one after the other. -/
def insertEntries (sorted entries : List (String × α)) : List (String × α) :=
  entries.foldl (fun sorted (name, value) => insertEntry name value sorted) sorted

theorem lookup_insertEntries (sorted entries : List (String × α)) (name : String) :
  (insertEntries sorted entries).lookup name
    = (entries.reverse.lookup name).or (sorted.lookup name)
  := by
  induction entries generalizing sorted with
  | nil => rfl
  | cons head rest ih =>
    obtain ⟨other, held⟩ := head
    rw [insertEntries, List.foldl_cons, ← insertEntries, ih, lookup_insertEntry,
      List.reverse_cons, List.lookup_append, Option.or_assoc, lookup_cons_eq]
    split <;> rfl

theorem sortedEntries_insertEntries {sorted : List (String × α)} (h : SortedEntries sorted)
    (entries : List (String × α)) :
  SortedEntries (insertEntries sorted entries)
  := by
  induction entries generalizing sorted with
  | nil => exact h
  | cons head rest ih => exact ih (sortedEntries_insertEntry h head.1 head.2)

/-- Of the entries of a name the last one stays. -/
theorem lookup_sortEntries (entries : List (String × α)) (name : String) :
  (sortEntries entries).lookup name = entries.reverse.lookup name
  := by
  rw [show sortEntries entries = insertEntries [] entries from rfl, lookup_insertEntries]
  apply Option.or_none

theorem sortedEntries_sortEntries (entries : List (String × α)) :
  SortedEntries (sortEntries entries)
  := sortedEntries_insertEntries .nil entries

/-- Entries that are sorted have different names. -/
theorem SortedEntries.nodup {entries : List (String × α)} (h : SortedEntries entries) :
  (entries.map Prod.fst).Nodup
  := by
  rw [List.nodup_iff_pairwise_ne, List.pairwise_map]
  apply h.imp
  intro a b less
  exact String.ne_of_lt less

theorem lookup_map (f : α → β) (entries : List (String × α)) (wanted : String) :
  (entries.map fun (name, value) => (name, f value)).lookup wanted
    = (entries.lookup wanted).map f
  := by
  induction entries with
  | nil => rfl
  | cons head rest ih =>
    rw [List.map_cons, lookup_cons_eq, lookup_cons_eq, ih]
    split <;> rfl

/-! ### Sorted entries -/

/-- In sorted entries a name has no second value. -/
theorem SortedEntries.lookup_eq_some_iff {entries : List (String × α)} (h : SortedEntries entries)
    {name : String} {value : α} :
  entries.lookup name = some value ↔ (name, value) ∈ entries
  := by
  constructor
  · intro found
    obtain ⟨front, back, rfl, -⟩ := List.lookup_eq_some_iff.1 found
    simp
  · intro mem
    obtain ⟨front, back, rfl⟩ := List.append_of_mem mem
    apply List.lookup_eq_some_iff.2
    refine ⟨front, back, rfl, ?_⟩
    intro entry before
    have less : entry.1 < name :=
      (List.pairwise_append.1 h).2.2 entry before _ List.mem_cons_self
    simpa using (String.ne_of_lt less).symm

/-- In sorted entries the last entry of a name is also the first. -/
theorem SortedEntries.lookup_reverse {entries : List (String × α)} (h : SortedEntries entries)
    (name : String) :
  entries.reverse.lookup name = entries.lookup name
  := by
  ext value
  rw [h.lookup_eq_some_iff]
  constructor
  · intro found
    obtain ⟨front, back, shape, -⟩ := List.lookup_eq_some_iff.1 found
    rw [← List.mem_reverse, shape]
    simp
  · intro mem
    obtain ⟨front, back, rfl⟩ := List.append_of_mem mem
    apply List.lookup_eq_some_iff.2
    refine ⟨back.reverse, front.reverse, by simp, ?_⟩
    intro entry after
    have less : name < entry.1 :=
      List.rel_of_pairwise_cons (List.pairwise_append.1 h).2.1 (List.mem_reverse.1 after)
    simpa using String.ne_of_lt less

/-- Sorted entries are determined by what is found under the names. -/
theorem SortedEntries.ext {entries others : List (String × α)} (h : SortedEntries entries)
    (h' : SortedEntries others) (same : ∀ name, entries.lookup name = others.lookup name) :
  entries = others
  := by
  have distinct {l : List (String × α)} (sorted : SortedEntries l) : l.Nodup := by
    apply sorted.imp
    rintro a _ less rfl
    exact String.lt_irrefl _ less
  have perm : entries.Perm others := by
    rw [List.perm_ext_iff_of_nodup (distinct h) (distinct h')]
    rintro ⟨name, value⟩
    rw [← h.lookup_eq_some_iff, ← h'.lookup_eq_some_iff, same]
  refine perm.eq_of_pairwise ?_ h h'
  intro a b _ _ less greater
  exact absurd less (String.lt_asymm greater)

theorem sortEntries_eq_self {entries : List (String × α)} (h : SortedEntries entries) :
  sortEntries entries = entries
  := by
  apply (sortedEntries_sortEntries entries).ext h
  intro name
  rw [lookup_sortEntries, h.lookup_reverse]

/-- Sorting brings no entry in. -/
theorem mem_of_mem_sortEntries {entries : List (String × α)} {entry : String × α}
    (h : entry ∈ sortEntries entries) :
  entry ∈ entries
  := by
  have found := (sortedEntries_sortEntries entries).lookup_eq_some_iff.2 h
  rw [lookup_sortEntries] at found
  obtain ⟨front, back, shape, -⟩ := List.lookup_eq_some_iff.1 found
  rw [← List.mem_reverse, shape]
  simp

/-- Sorting takes no entry away if every name occurs once. -/
theorem mem_sortEntries_of_nodup {entries : List (String × α)}
    (distinct : (entries.map Prod.fst).Nodup) {entry : String × α} (mem : entry ∈ entries) :
  entry ∈ sortEntries entries
  := by
  obtain ⟨front, back, rfl⟩ := List.append_of_mem mem
  rw [List.map_append, List.map_cons, List.nodup_append] at distinct
  apply (sortedEntries_sortEntries _).lookup_eq_some_iff.1
  rw [lookup_sortEntries]
  apply List.lookup_eq_some_iff.2
  refine ⟨back.reverse, front.reverse, by simp, ?_⟩
  intro other after
  have differ : entry.1 ≠ other.1 := by
    intro same
    apply (List.nodup_cons.1 distinct.2.1).1
    rw [same]
    exact List.mem_map_of_mem (List.mem_reverse.1 after)
  simpa using differ

/-! ### Entries in correspondence -/

/-- The entries of two lists have the same names in the same order, and related values. -/
def Corresponding (R : α → β → Prop) : List (String × α) → List (String × β) → Prop :=
  List.Forall₂ fun a b => a.1 = b.1 ∧ R a.2 b.2

namespace Corresponding

variable {R S : α → β → Prop} {entries : List (String × α)} {others : List (String × β)}

theorem imp (h : Corresponding R entries others) (weaker : ∀ x y, R x y → S x y) :
  Corresponding S entries others
  := List.Forall₂.imp (fun _ _ both => ⟨both.1, weaker _ _ both.2⟩) h

theorem insertEntry (h : Corresponding R entries others) {name : String} {x : α} {y : β}
    (related : R x y) :
  Corresponding R (insertEntry name x entries) (insertEntry name y others)
  := by
  induction h with
  | nil => exact .cons ⟨rfl, related⟩ .nil
  | @cons a b rest rest' head tail ih =>
    obtain ⟨other, held⟩ := a
    obtain ⟨_, held'⟩ := b
    obtain ⟨rfl, heldRelated⟩ := head
    unfold ConfigTemplate.insertEntry
    split
    · exact .cons ⟨rfl, related⟩ (.cons ⟨rfl, heldRelated⟩ tail)
    · split
      · exact .cons ⟨rfl, heldRelated⟩ ih
      · exact .cons ⟨rfl, related⟩ tail

/-- Sorting keeps entries in correspondence. -/
theorem sortEntries (h : Corresponding R entries others) :
  Corresponding R (sortEntries entries) (sortEntries others)
  := by
  have step {sorted : List (String × α)} {sorted' : List (String × β)}
      (begun : Corresponding R sorted sorted') :
      Corresponding R (insertEntries sorted entries) (insertEntries sorted' others) := by
    induction h generalizing sorted sorted' with
    | nil => exact begun
    | @cons a b rest rest' head tail ih =>
      obtain ⟨name, x⟩ := a
      obtain ⟨_, y⟩ := b
      obtain ⟨rfl, related⟩ := head
      exact ih (begun.insertEntry related)
  exact step .nil

/-- Where related values have the same image, the entries have the same image. -/
theorem map_eq {γ : Type u} {f : α → γ} {g : β → γ}
    (h : Corresponding (fun x y => f x = g y) entries others) :
  (entries.map fun (name, x) => (name, f x)) = others.map fun (name, y) => (name, g y)
  := by
  induction h with
  | nil => rfl
  | @cons a b rest rest' head _ ih =>
    rw [List.map_cons, List.map_cons, ih]
    simpa using head

end Corresponding

theorem corresponding_map_left {γ : Type u} {R : β → γ → Prop} {f : α → β}
    {entries : List (String × α)} {others : List (String × γ)} :
  Corresponding R (entries.map fun (name, x) => (name, f x)) others
    ↔ Corresponding (fun x y => R (f x) y) entries others
  := List.forall₂_map_left_iff

theorem corresponding_map (f : α → β) (entries : List (String × α)) :
  Corresponding (fun x y => f x = y) entries (entries.map fun (name, x) => (name, f x))
  := by
  induction entries with
  | nil => exact .nil
  | cons head rest ih => exact .cons ⟨rfl, rfl⟩ ih

theorem map_sortEntries (f : α → β) (entries : List (String × α)) :
  ((sortEntries entries).map fun (name, x) => (name, f x))
    = sortEntries (entries.map fun (name, x) => (name, f x))
  := by
  rw [(corresponding_map f entries).sortEntries.map_eq, List.map_id']

namespace Dictionary

theorem contains_iff (d : Dictionary α) (name : String) :
  d.contains name = true ↔ name ∈ d.names
  := by
  simp only [contains, get?, List.lookup_isSome_iff, beq_iff_eq, names, List.mem_map]
  grind

theorem entries_insertAll (d : Dictionary α) (entries : List (String × α)) :
  (d.insertAll entries).entries = insertEntries d.entries entries
  := by
  induction entries generalizing d with
  | nil => rfl
  | cons head rest ih => exact ih (d.insert head.1 head.2)

theorem entries_ofList (entries : List (String × α)) :
  (ofList entries).entries = sortEntries entries
  := entries_insertAll empty entries

theorem entries_map (f : α → β) (d : Dictionary α) :
  (d.map f).entries = d.entries.map fun (name, value) => (name, f value)
  := rfl

/-- Entries that are inserted decide about their names, and of those of one name the last. -/
theorem get?_insertAll (d : Dictionary α) (entries : List (String × α)) (name : String) :
  (d.insertAll entries).get? name = (entries.reverse.lookup name).or (d.get? name)
  := by
  rw [get?, entries_insertAll, lookup_insertEntries]
  rfl

/-- The last entry of a name is the one that a dictionary of a list has. -/
theorem get?_ofList (entries : List (String × α)) (name : String) :
  (ofList entries).get? name = entries.reverse.lookup name
  := by
  rw [ofList, get?_insertAll]
  apply Option.or_none

theorem get?_insert (d : Dictionary α) (name : String) (value : α) (wanted : String) :
  (d.insert name value).get? wanted = if wanted = name then some value else d.get? wanted
  := lookup_insertEntry name value d.entries wanted

theorem get?_erase (d : Dictionary α) (name wanted : String) :
  (d.erase name).get? wanted = if wanted = name then none else d.get? wanted
  := by
  have found := lookup_filter (· != name) d.entries wanted
  by_cases same : wanted = name
  · simpa [get?, erase, same] using found
  · simpa [get?, erase, same] using found

/-- Of two dictionaries together the second one decides about its names. -/
theorem get?_merge (d e : Dictionary α) (name : String) :
  (d.merge e).get? name = (e.get? name).or (d.get? name)
  := by
  rw [merge, get?_insertAll, e.sorted.lookup_reverse]
  rfl

/-- Dictionaries are determined by what is found under the names. -/
theorem eq_of_get? {d e : Dictionary α} (same : ∀ name, d.get? name = e.get? name) :
  d = e
  := Dictionary.ext (d.sorted.ext e.sorted same)

theorem names_sorted (d : Dictionary α) :
  d.names.Pairwise (· < ·)
  := by
  rw [names, List.pairwise_map]
  exact d.sorted

end Dictionary

end ConfigTemplate
