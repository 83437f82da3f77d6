/-!
# Dictionaries

A dictionary maps names to values.  It is a list of entries in increasing order of names, so two
dictionaries with the same entries are equal, and listing the names needs no sorting.  Strings
are ordered by code points, which is also the order of their UTF-8 bytes.
-/

universe u

namespace ConfigTemplate

/-- Entries in strictly increasing order of names. -/
def SortedEntries {α : Type u} (entries : List (String × α)) : Prop :=
  entries.Pairwise fun a b => a.1 < b.1

/-- Puts an entry at its place, over an entry of the same name. -/
def insertEntry {α : Type u} (name : String) (value : α) : List (String × α) → List (String × α)
  | [] => [(name, value)]
  | (other, held) :: rest =>
    if name < other then (name, value) :: (other, held) :: rest
    else if other < name then (other, held) :: insertEntry name value rest
    else (name, value) :: rest

/-- A name of the list after an insertion is the inserted one or was there before. -/
theorem fst_eq_or_mem_of_mem_insertEntry {α : Type u} {name : String} {value : α}
  {entries : List (String × α)} {entry : String × α} (h : entry ∈ insertEntry name value entries) :
  entry.1 = name ∨ entry ∈ entries
  := by
  induction entries with
  | nil => simp_all [insertEntry]
  | cons head rest ih =>
    obtain ⟨other, held⟩ := head
    unfold insertEntry at h
    split at h
    · grind
    · split at h <;> grind

/-- An insertion keeps the entries sorted. -/
theorem sortedEntries_insertEntry {α : Type u} {entries : List (String × α)}
  (h : SortedEntries entries) (name : String) (value : α) :
  SortedEntries (insertEntry name value entries)
  := by
  induction entries with
  | nil => simp [SortedEntries, insertEntry]
  | cons head rest ih =>
    obtain ⟨other, held⟩ := head
    have later := (List.pairwise_cons.1 h).1
    have sorted : SortedEntries rest := List.Pairwise.of_cons h
    unfold insertEntry
    split
    · next before =>
      refine List.pairwise_cons.2 ⟨?_, h⟩
      intro entry mem
      rcases List.mem_cons.1 mem with rfl | mem
      · exact before
      · exact String.lt_trans before (later _ mem)
    · split
      · next after =>
        refine List.pairwise_cons.2 ⟨?_, ih sorted⟩
        intro entry mem
        rcases fst_eq_or_mem_of_mem_insertEntry mem with same | mem
        · simpa [same] using after
        · exact later _ mem
      · next notBefore notAfter =>
        have same : name = other :=
          String.le_antisymm (String.not_lt.1 notAfter) (String.not_lt.1 notBefore)
        subst same
        exact List.pairwise_cons.2 ⟨later, sorted⟩

/-- The entries of a list, sorted by name; of two with one name the later stays. -/
def sortEntries {α : Type u} (entries : List (String × α)) : List (String × α) :=
  entries.foldl (fun sorted (name, value) => insertEntry name value sorted) []

/-- A finite map from names to values, its entries in increasing order of names. -/
@[ext]
structure Dictionary (α : Type u) where
  entries : List (String × α)
  sorted : SortedEntries entries

namespace Dictionary

variable {α : Type u}

instance [DecidableEq α] : DecidableEq (Dictionary α) := fun a b =>
  decidable_of_iff (a.entries = b.entries) (Dictionary.ext_iff).symm

/-- The dictionary without entries. -/
def empty : Dictionary α := ⟨[], List.Pairwise.nil⟩

instance : Inhabited (Dictionary α) := ⟨empty⟩

/-- Sets the value of a name. -/
def insert (d : Dictionary α) (name : String) (value : α) : Dictionary α :=
  ⟨insertEntry name value d.entries, sortedEntries_insertEntry d.sorted name value⟩

/-- Takes a name out. -/
def erase (d : Dictionary α) (name : String) : Dictionary α :=
  ⟨d.entries.filter (·.1 != name), List.Pairwise.filter _ d.sorted⟩

/-- The value of a name, if it has one. -/
def get? (d : Dictionary α) (name : String) : Option α :=
  d.entries.lookup name

/-- Whether a name has a value. -/
def contains (d : Dictionary α) (name : String) : Bool :=
  (d.get? name).isSome

/-- The names in increasing order. -/
def names (d : Dictionary α) : List String :=
  d.entries.map Prod.fst

/-- The number of entries. -/
def size (d : Dictionary α) : Nat := d.entries.length

/-- Whether there is no entry. -/
def isEmpty (d : Dictionary α) : Bool := d.entries.isEmpty

/-- Sets the entries of a list one after the other, so the last of a name stays. -/
def insertAll (d : Dictionary α) (entries : List (String × α)) : Dictionary α :=
  entries.foldl (fun d (name, value) => d.insert name value) d

/-- The dictionary of a list of entries; of two with one name the later stays. -/
def ofList (entries : List (String × α)) : Dictionary α :=
  empty.insertAll entries

/-- Both dictionaries together; where they share a name, the second one decides. -/
def merge (d e : Dictionary α) : Dictionary α :=
  d.insertAll e.entries

/-- The dictionary with a function applied to every value. -/
def map {β : Type u} (f : α → β) (d : Dictionary α) : Dictionary β :=
  ⟨d.entries.map fun (name, value) => (name, f value), by
    simpa [SortedEntries, List.pairwise_map] using d.sorted⟩

end Dictionary

end ConfigTemplate
