import ConfigTemplate.Proofs.Json.CanonicalValue
import ConfigTemplate.Proofs.Json.TypedValues

/-!
# Lawful codecs

A codec is lawful if it writes what it has read from a value as that value, up to the order of
members, and does not read the value differently when its members are sorted.  The codecs of leaves
are lawful since they read nothing but what they write.  A list, a dictionary and a record are
lawful if their parts are: a record finds each field under its name, and what it finds under no
name of a field is kept beside the fields.
-/

namespace ConfigTemplate.Json

namespace Codec

variable {α β σ : Type}

/-- The codec reads the value as `x`. -/
def Reads (codec : Codec α) (value : Value) (x : α) : Prop :=
  codec.read (Node.ofValue value) = .ok x

/-- What is read from a value is written as that value, and is read again from the value with its
members sorted. -/
class Lawful (codec : Codec α) : Prop where
  write_sorted {value : Value} {x : α} (reads : codec.Reads value x) :
    (codec.write x).sorted = value.sorted
  reads_sorted {value : Value} {x : α} (reads : codec.Reads value x) :
    codec.Reads value.sorted x

/-! ### Leaves -/

theorem reads_boolean {value : Value} {b : Bool} :
  boolean.Reads value b ↔ value = .boolean b
  := by
  cases value <;> simp [Reads, boolean, Node.ofValue]

theorem reads_string {value : Value} {s : String} :
  string.Reads value s ↔ value = .string s
  := by
  cases value <;> simp [Reads, string, Node.ofValue]

theorem reads_number {value : Value} {n : Number} :
  number.Reads value n ↔ value = .number n
  := by
  cases value <;> simp [Reads, number, Node.ofValue]

theorem reads_whole {w : Width} {value : Value} {n : Whole w} :
  (whole w).Reads value n ↔ value = .number (.integer n.value (w.fits n.inRange))
  := by
  obtain ⟨i, inRange⟩ := n
  match value with
  | .null | .boolean _ | .string _ | .array _ | .object _ => simp [Reads, whole, Node.ofValue]
  | .number (.float _) => simp [Reads, whole, Node.ofValue]
  | .number (.integer j fits) =>
    simp only [Reads, whole, Node.ofValue]
    split
    · simp
    · next outside =>
      suffices j ≠ i by simpa
      rintro rfl
      exact outside inRange

/-- A codec that reads nothing but the leaves that it writes is lawful. -/
theorem Lawful.of_leaf {codec : Codec α}
    (reads : ∀ value x, codec.Reads value x → value = codec.write x)
    (leaf : ∀ x, (codec.write x).sorted = codec.write x) :
  codec.Lawful
  where
  write_sorted h := by rw [reads _ _ h]
  reads_sorted h := by
    have same := reads _ _ h
    rw [same, leaf, ← same]
    exact h

instance lawful_boolean : boolean.Lawful :=
  .of_leaf (fun _ _ => reads_boolean.1) (fun _ => rfl)

instance lawful_string : string.Lawful :=
  .of_leaf (fun _ _ => reads_string.1) (fun _ => rfl)

instance lawful_number : number.Lawful :=
  .of_leaf (fun _ _ => reads_number.1) (fun _ => rfl)

instance lawful_whole (w : Width) : (whole w).Lawful :=
  .of_leaf (fun _ _ => reads_whole.1) (fun _ => rfl)

/-! ### Lists and dictionaries -/

/-- Two steps have a result together if each of them has one. -/
theorem both_eq_ok {ε γ : Type} {first : Except ε α} {second : Except ε β} {combine : α → β → γ}
    {result : γ} :
  (do let x ← first; let y ← second; return combine x y) = .ok result
    ↔ ∃ x y, first = .ok x ∧ second = .ok y ∧ combine x y = result
  := by
  cases first with
  | error e => simp [bind, Except.bind]
  | ok x =>
    cases second with
    | error e => simp [bind, Except.bind]
    | ok y => simp [bind, Except.bind, pure, Except.pure]

/-- A list is read item by item. -/
theorem reads_list {item : Codec α} {value : Value} {xs : List α} :
  (list item).Reads value xs ↔ ∃ items, value = .array items ∧ List.Forall₂ item.Reads items xs
  := by
  have step (items : List Value) (xs : List α) :
      readItems item.read (Node.ofItems items) = .ok xs ↔ List.Forall₂ item.Reads items xs := by
    induction items generalizing xs with
    | nil => simp [Node.ofItems, readItems, eq_comm]
    | cons value rest ih =>
      rw [Node.ofItems, readItems, both_eq_ok, List.forall₂_cons_left_iff]
      simp only [ih, Reads]
      grind
  cases value <;> simp [Reads, list, Node.ofValue, step]

/-- A dictionary is read member by member, and the last one of a name stays. -/
theorem reads_dictionary {item : Codec α} {value : Value} {d : Dictionary α} :
  (dictionary item).Reads value d
    ↔ ∃ members, value = .object members
      ∧ ∃ entries, Corresponding item.Reads members entries ∧ .ofList entries = d
  := by
  have step (members : List (String × Value)) (entries : List (String × α)) :
      readMembers item.read (Node.ofMembers members) = .ok entries
        ↔ Corresponding item.Reads members entries := by
    induction members generalizing entries with
    | nil => simp [Node.ofMembers, readMembers, Corresponding, eq_comm]
    | cons member rest ih =>
      obtain ⟨name, value⟩ := member
      rw [Node.ofMembers, readMembers, both_eq_ok, Corresponding, List.forall₂_cons_left_iff]
      simp only [ih, Reads, Corresponding, Prod.exists]
      grind
  have image {result : Except Fault (List (String × α))} :
      result.map .ofList = .ok d ↔ ∃ entries, result = .ok entries ∧ .ofList entries = d := by
    cases result <;> simp [Except.map]
  cases value <;> simp [Reads, dictionary, Node.ofValue, image, step]

instance lawful_list (item : Codec α) [lawful : item.Lawful] : (list item).Lawful where
  write_sorted {value xs} h := by
    obtain ⟨items, rfl, each⟩ := reads_list.1 h
    have same : (xs.map item.write).map Value.sorted = items.map Value.sorted := by
      clear h
      induction each with
      | nil => rfl
      | cons head _ ih => simp only [List.map_cons, ih, lawful.write_sorted head]
    rw [list, Value.sorted_array, Value.sorted_array, same]
  reads_sorted h := by
    obtain ⟨items, rfl, each⟩ := reads_list.1 h
    rw [Value.sorted_array, reads_list]
    refine ⟨_, rfl, ?_⟩
    rw [List.forall₂_map_left_iff]
    exact each.imp fun _ _ => lawful.reads_sorted

instance lawful_dictionary (item : Codec α) [lawful : item.Lawful] :
    (dictionary item).Lawful where
  write_sorted h := by
    obtain ⟨members, rfl, entries, each, rfl⟩ := reads_dictionary.1 h
    have same : (entries.map fun (name, x) => (name, (item.write x).sorted))
        = Value.sortedMembers members := by
      have written : Corresponding (fun value x => value.sorted = (item.write x).sorted)
          members entries :=
        each.imp fun _ _ reads => (lawful.write_sorted reads).symm
      rw [Value.sortedMembers_eq_map, written.map_eq]
    rw [dictionary, Value.sorted_object, Value.sorted_object, ← same, Dictionary.entries_map,
      Dictionary.entries_ofList, map_sortEntries, Value.sortedMembers_eq_map, map_sortEntries,
      List.map_map, sortEntries_eq_self (sortedEntries_sortEntries _)]
    rfl
  reads_sorted h := by
    obtain ⟨members, rfl, entries, each, rfl⟩ := reads_dictionary.1 h
    have sorted : Corresponding item.Reads (Value.sortedMembers members) entries := by
      rw [Value.sortedMembers_eq_map, corresponding_map_left]
      exact each.imp fun _ _ => lawful.reads_sorted
    rw [Value.sorted_object, reads_dictionary]
    refine ⟨_, rfl, _, sorted.sortEntries, ?_⟩
    apply Dictionary.ext
    rw [Dictionary.entries_ofList, Dictionary.entries_ofList,
      sortEntries_eq_self (sortedEntries_sortEntries entries)]

end Codec

/-! ### Fields -/

namespace Fields

variable {α β : Type}

/-- The fields are written under their names, each with what it was read from, and they are read
again from the sorted members. -/
class Lawful (fields : Fields α) : Prop where
  names_write (x : α) : (fields.write x).map Prod.fst = fields.names
  write_sorted {entries : List (String × Value)} {x : α} (reads : fields.Reads entries x) :
    ∀ name ∈ fields.names, ((fields.write x).reverse.lookup name).map Value.sorted
      = (entries.reverse.lookup name).map Value.sorted
  reads_sorted {entries : List (String × Value)} {x : α} (reads : fields.Reads entries x) :
    fields.Reads (sortEntries (Value.sortedMembers entries)) x

/-- A field that is read has one member of its name. -/
theorem exists_occurrence_of_read_field {name : String} {codec : Codec α} {members : List Member}
    {missing : String → Fault} {x : α} (h : (field name codec).read members missing = .ok x) :
  ∃ member i, occurrences name members = [(member, i)] ∧ codec.read member.value = .ok x
  := by
  simp only [field] at h
  cases places : occurrences name members with
  | nil => simp [places] at h
  | cons first others =>
    obtain ⟨member, i⟩ := first
    cases read : codec.read member.value with
    | error fault => simp [places, read] at h
    | ok y =>
      cases others with
      | cons again others => simp [places, read] at h
      | nil =>
        obtain rfl : y = x := by simpa [places, read] using h
        exact ⟨member, i, rfl, read⟩

theorem map_fst_occurrences (name : String) (members : List Member) :
  (occurrences name members).map Prod.fst = members.filter (·.key == name)
  := by
  have filtered : (members.zipIdx.map Prod.fst).filter (·.key == name)
      = (occurrences name members).map Prod.fst := List.filter_map
  rw [← filtered, List.zipIdx_map_fst]

/-- A field is read from the one member of its name, whatever the other names are. -/
theorem exists_of_reads_field {name : String} {codec : Codec α} {entries : List (String × Value)}
    {x : α} (reads : (field name codec).Reads entries x) :
  ∃ value, entries.reverse.lookup name = some value ∧ codec.Reads value x
  := by
  obtain ⟨member, i, place, read⟩ := exists_occurrence_of_read_field reads
  have single := map_fst_occurrences name (entries.map Member.ofEntry)
  rw [place, List.filter_map] at single
  obtain ⟨⟨other, value⟩, only, rfl⟩ := List.map_eq_singleton_iff.1 single.symm
  have named : entries.filter (·.1 == name) = [(other, value)] := only
  have isName : other = name := by
    have mem : (other, value) ∈ entries.filter (·.1 == name) := by simp [named]
    simpa using (List.mem_filter.1 mem).2
  refine ⟨value, ?_, read⟩
  have found := lookup_filter (· == name) entries.reverse name
  rw [List.filter_reverse, named] at found
  simpa [isName, lookup_cons_eq] using found.symm

/-- Of sorted members a field takes the last one of its name. -/
@[simp]
theorem reads_field_sorted {name : String} {codec : Codec α} {entries : List (String × Value)}
    {x : α} :
  (field name codec).Reads (sortEntries entries) x
    ↔ ∃ value, entries.reverse.lookup name = some value ∧ codec.Reads value x
  := by
  rw [reads_field (sortedEntries_sortEntries entries).nodup, lookup_sortEntries]
  rfl

instance lawful_field (name : String) (codec : Codec α) [lawful : codec.Lawful] :
    (field name codec).Lawful where
  names_write x := rfl
  write_sorted {entries x} reads := by
    obtain ⟨value, found, readsValue⟩ := exists_of_reads_field reads
    intro wanted isName
    obtain rfl : wanted = name := by simpa [field] using isName
    simp [field, found, lawful.write_sorted readsValue]
  reads_sorted reads := by
    obtain ⟨value, found, readsValue⟩ := exists_of_reads_field reads
    rw [reads_field_sorted, Value.lookup_reverse_sortedMembers, found]
    exact ⟨value.sorted, rfl, lawful.reads_sorted readsValue⟩

/-- What is written has a value for the names of the fields alone. -/
theorem Lawful.isSome_lookup_write {fields : Fields α} (lawful : fields.Lawful) (x : α)
    (name : String) :
  ((fields.write x).reverse.lookup name).isSome = true ↔ name ∈ fields.names
  := by
  rw [← lawful.names_write x]
  simp [List.lookup_isSome_iff]

theorem Lawful.lookup_write_eq_none {fields : Fields α} (lawful : fields.Lawful) (x : α)
    {name : String} (other : name ∉ fields.names) :
  (fields.write x).reverse.lookup name = none
  := by
  rw [← Option.not_isSome_iff_eq_none, lawful.isSome_lookup_write]
  exact other

instance lawful_and (a : Fields α) (b : Fields β) [lawfulA : a.Lawful] [lawfulB : b.Lawful] :
    (a.and b).Lawful where
  names_write x := by
    rw [Fields.and, List.map_append, lawfulA.names_write, lawfulB.names_write]
  write_sorted {entries x} reads := by
    obtain ⟨readsA, readsB⟩ := reads_and.1 reads
    intro name isName
    rw [Fields.and, List.reverse_append, List.lookup_append]
    by_cases inB : name ∈ b.names
    · rw [Option.or_of_isSome ((lawfulB.isSome_lookup_write x.2 name).2 inB)]
      exact lawfulB.write_sorted readsB name inB
    · have inA : name ∈ a.names := (List.mem_append.1 isName).resolve_right inB
      rw [lawfulB.lookup_write_eq_none x.2 inB, Option.none_or]
      exact lawfulA.write_sorted readsA name inA
  reads_sorted reads := by
    obtain ⟨readsA, readsB⟩ := reads_and.1 reads
    exact reads_and.2 ⟨lawfulA.reads_sorted readsA, lawfulB.reads_sorted readsB⟩

/-- What is kept beside the fields is found under the names that no field has. -/
theorem lookup_reverse_others (names : List String) (entries : List (String × Value))
    (wanted : String) :
  (others names entries).entries.reverse.lookup wanted
    = if wanted ∈ names then none else (entries.reverse.lookup wanted).map Value.sorted
  := by
  rw [(others names entries).sorted.lookup_reverse, ← Dictionary.get?, others,
    Dictionary.get?_ofList, ← List.map_reverse, lookup_map, ← List.filter_reverse,
    lookup_filter (!names.contains ·)]
  by_cases isName : wanted ∈ names
  · simp [isName]
  · simp [isName]

/-- Sorting the members changes nothing in what is kept beside the fields. -/
theorem others_sorted (names : List String) (entries : List (String × Value)) :
  others names (sortEntries (Value.sortedMembers entries)) = others names entries
  := by
  apply Dictionary.ext
  apply (Dictionary.sorted _).ext (Dictionary.sorted _)
  intro wanted
  rw [← (Dictionary.sorted _).lookup_reverse, ← (Dictionary.sorted _).lookup_reverse,
    lookup_reverse_others, lookup_reverse_others, (sortedEntries_sortEntries _).lookup_reverse,
    lookup_sortEntries, Value.lookup_reverse_sortedMembers]
  simp

end Fields

/-! ### Records -/

namespace Codec

variable {α σ : Type} {name : String} {fields : Fields α} {make : α → Dictionary Value → σ}
  {parts : σ → α × Dictionary Value}

/-- A record is read from an object alone. -/
theorem reads_record {value : Value} {result : σ} :
  (record name fields make parts).Reads value result
    ↔ ∃ entries, value = .object entries
      ∧ ∃ values, fields.Reads entries values
        ∧ make values (Fields.others fields.names entries) = result
  := by
  cases value with
  | object entries => simp [Reads, read_record]
  | null | boolean | number | string | array => simp [Reads, record, Node.ofValue]

/-- A record with lawful fields is lawful if it is taken apart into what it was made of. -/
theorem lawful_record [lawful : fields.Lawful]
    (back : ∀ values extra, parts (make values extra) = (values, extra)) :
  (record name fields make parts).Lawful
  where
  write_sorted h := by
    obtain ⟨entries, rfl, values, reads, rfl⟩ := reads_record.1 h
    simp only [record, back]
    rw [Value.sorted_object, Value.sorted_object]
    congr 1
    apply (sortedEntries_sortEntries _).ext (sortedEntries_sortEntries _)
    intro wanted
    rw [lookup_sortEntries, lookup_sortEntries, Value.lookup_reverse_sortedMembers,
      Value.lookup_reverse_sortedMembers, List.reverse_append, List.lookup_append,
      Fields.lookup_reverse_others]
    split
    · next isField => exact lawful.write_sorted reads wanted isField
    · next other =>
      rw [lawful.lookup_write_eq_none values other]
      simp
  reads_sorted h := by
    obtain ⟨entries, rfl, values, reads, rfl⟩ := reads_record.1 h
    rw [Value.sorted_object, reads_record]
    exact ⟨_, rfl, values, lawful.reads_sorted reads, by rw [Fields.others_sorted]⟩

end Codec

end ConfigTemplate.Json
