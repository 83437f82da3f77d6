import ConfigTemplate.Proofs.Json.PrettyText
import ConfigTemplate.Proofs.Json.Unrepeated

/-!
# Values without repetitions

The members of an object may be written in an order of their own, as the fields of a record are, and
still no name may come twice.  Sorting such a value takes nothing away, so it is no deeper than its
sorted form, and a text that is laid out like it repeats nothing: `Shape.unrepeated_of_laidOut`.  A
codec is distinct if it writes what it has read as such a value.  A record is, since it keeps beside
its fields only members that have other names.
-/

namespace ConfigTemplate.Json

namespace Value

/-- No object in the value has two members of one name. -/
inductive Distinct : Value → Prop
  | null : Distinct .null
  | boolean (b : Bool) : Distinct (.boolean b)
  | number (n : Number) : Distinct (.number n)
  | string (s : String) : Distinct (.string s)
  | array {items : List Value} (each : ∀ item ∈ items, Distinct item) : Distinct (.array items)
  | object {members : List (String × Value)} (names : (members.map Prod.fst).Nodup)
    (each : ∀ member ∈ members, Distinct member.2) : Distinct (.object members)

theorem Canonical.distinct {v : Value} (h : v.Canonical) :
  v.Distinct
  := by
  induction h with
  | null => exact .null
  | boolean b => exact .boolean b
  | number n => exact .number n
  | string s => exact .string s
  | array each ih => exact .array ih
  | object order each ih => exact .object order.nodup ih

/-- A value without repetitions opens no more brackets than its sorted form. -/
theorem Distinct.shallow {v : Value} (h : v.Distinct) {limit : Nat}
    (shallow : v.sorted.Shallow limit) :
  v.Shallow limit
  := by
  induction h generalizing limit with
  | null => exact .null limit
  | boolean b => exact .boolean limit b
  | number n => exact .number limit n
  | string s => exact .string limit s
  | @array items each ih =>
    rw [sorted_array] at shallow
    rcases shallow with _ | _ | _ | _ | shallow | _
    exact .array fun item mem => ih item mem (shallow _ (List.mem_map_of_mem mem))
  | @object members names each ih =>
    rw [sorted_object] at shallow
    rcases shallow with _ | _ | _ | _ | _ | shallow
    apply Shallow.object
    intro member mem
    -- No other member has the name, so sorting keeps this one.
    have sameNames : (sortedMembers members).map Prod.fst = members.map Prod.fst := by
      simp [sortedMembers_eq_map]
    have found : (member.1, member.2.sorted) ∈ sortedMembers members := by
      rw [sortedMembers_eq_map]
      exact List.mem_map_of_mem mem
    rw [← sameNames] at names
    exact ih member mem (shallow _ (mem_sortEntries_of_nodup names found))

end Value

/-! ### Texts laid out like a value -/

/-- Where what is laid out repeats nothing, the members repeat nothing. -/
theorem distinct_of_laidOutMembers {members : Members} {entries : List (String × Value)}
    (parts : Node.laidOutMembers members = .ok entries)
    (distinct : (Value.object entries).Distinct) :
  (members.split.1.map Member.key).Nodup
    ∧ ∀ m ∈ members.split.1, ∃ value, m.value.laidOut = .ok value ∧ value.Distinct
  := by
  obtain ⟨sameNames, values⟩ := Node.members_of_laidOut parts
  rcases distinct with _ | _ | _ | _ | _ | ⟨names, each⟩
  refine ⟨sameNames ▸ names, ?_⟩
  intro m mem
  obtain ⟨entry, found, laidOut⟩ := values m mem
  exact ⟨entry.2, laidOut, each entry found⟩

namespace Shape

mutual

/-- A text that is laid out like a value without repetitions repeats nothing. -/
theorem unrepeated_of_laidOut :
    ∀ (shape : Shape) {node : Node} {value : Value}, node.laidOut = .ok value → value.Distinct →
      shape.Unrepeated node
  | .record fields, .object _ _ members, value, laidOut, distinct => by
    obtain ⟨entries, parts, rfl⟩ := map_eq_ok laidOut
    obtain ⟨names, each⟩ := distinct_of_laidOutMembers parts distinct
    rw [Unrepeated]
    exact unrepeatedFields_of_distinct fields names each
  | .dictionary _ entry, .object _ _ members, value, laidOut, distinct => by
    obtain ⟨entries, parts, rfl⟩ := map_eq_ok laidOut
    obtain ⟨names, each⟩ := distinct_of_laidOutMembers parts distinct
    rw [Unrepeated]
    refine ⟨names, ?_⟩
    intro m mem
    obtain ⟨v, laidOut, distinct⟩ := each m mem
    exact unrepeated_of_laidOut entry laidOut distinct
  | .plain, _, _, _, _ => by simp [Unrepeated]
  | .record _, .leaf .., _, _, _ | .record _, .array .., _, _, _ => by simp [Unrepeated]
  | .record _, .absent _, _, _, _ | .record _, .broken .., _, _, _ => by simp [Unrepeated]
  | .dictionary .., .leaf .., _, _, _ | .dictionary .., .array .., _, _, _ => by simp [Unrepeated]
  | .dictionary .., .absent _, _, _, _ | .dictionary .., .broken .., _, _, _ => by
    simp [Unrepeated]

theorem unrepeatedFields_of_distinct :
    ∀ (fields : List (String × Shape)) {members : List Member},
      (members.map Member.key).Nodup →
      (∀ m ∈ members, ∃ value, m.value.laidOut = .ok value ∧ value.Distinct) →
      UnrepeatedFields fields members
  | [], _, _, _ => by simp [UnrepeatedFields]
  | (name, shape) :: rest, members, names, each => by
    rw [UnrepeatedFields]
    refine ⟨⟨length_named_le_one names name, ?_⟩, unrepeatedFields_of_distinct rest names each⟩
    intro m isNamed
    obtain ⟨v, laidOut, distinct⟩ := each m (List.mem_filter.1 isNamed).1
    exact unrepeated_of_laidOut shape laidOut distinct

end

end Shape

/-! ### Codecs -/

namespace Codec

variable {α : Type}

/-- What has been read is written without repetitions. -/
class Distinct (codec : Codec α) : Prop where
  distinct_write {value : Value} {x : α} (reads : codec.Reads value x) : (codec.write x).Distinct

instance distinct_boolean : boolean.Distinct where
  distinct_write {_ b} _ := .boolean b

instance distinct_string : string.Distinct where
  distinct_write {_ s} _ := .string s

instance distinct_number : number.Distinct where
  distinct_write {_ n} _ := .number n

instance distinct_whole (w : Width) : (whole w).Distinct where
  distinct_write _ := .number _

instance distinct_list (item : Codec α) [distinct : item.Distinct] : (list item).Distinct where
  distinct_write {_ xs} reads := by
    obtain ⟨items, rfl, each⟩ := reads_list.1 reads
    apply Value.Distinct.array
    clear reads
    induction each with
    | nil => nofun
    | cons head _ ih => exact List.forall_mem_cons.2 ⟨distinct.distinct_write head, ih⟩

instance distinct_dictionary (item : Codec α) [distinct : item.Distinct] :
    (dictionary item).Distinct where
  distinct_write reads := by
    obtain ⟨members, rfl, entries, each, rfl⟩ := reads_dictionary.1 reads
    have written : ∀ entry ∈ entries, (item.write entry.2).Distinct := by
      clear reads
      induction each with
      | nil => nofun
      | cons head _ ih => exact List.forall_mem_cons.2 ⟨distinct.distinct_write head.2, ih⟩
    apply Value.Distinct.object (Dictionary.sorted _).nodup
    rw [Dictionary.entries_map, Dictionary.entries_ofList]
    intro member mem
    obtain ⟨entry, found, rfl⟩ := List.mem_map.1 mem
    exact written entry (mem_of_mem_sortEntries found)

end Codec

namespace Fields

variable {α β : Type}

/-- What has been read into the fields is written without repetitions, each field by itself. -/
class Distinct (fields : Fields α) : Prop where
  distinct_write {entries : List (String × Value)} {x : α} (reads : fields.Reads entries x) :
    ∀ member ∈ fields.write x, member.2.Distinct

instance distinct_field (name : String) (codec : Codec α) [distinct : codec.Distinct] :
    (field name codec).Distinct where
  distinct_write reads := by
    obtain ⟨value, -, readsValue⟩ := exists_of_reads_field reads
    exact List.forall_mem_singleton.2 (distinct.distinct_write readsValue)

instance distinct_and (a : Fields α) (b : Fields β) [distinctA : a.Distinct]
    [distinctB : b.Distinct] : (a.and b).Distinct where
  distinct_write reads := by
    obtain ⟨readsA, readsB⟩ := reads_and.1 reads
    exact List.forall_mem_append.2
      ⟨distinctA.distinct_write readsA, distinctB.distinct_write readsB⟩

/-- What is kept beside the fields has none of their names. -/
theorem not_mem_of_mem_others {names : List String} {entries : List (String × Value)}
    {member : String × Value} (mem : member ∈ (others names entries).entries) :
  member.1 ∉ names ∧ member.2.Canonical
  := by
  rw [others, Dictionary.entries_ofList] at mem
  obtain ⟨⟨name, value⟩, kept, rfl⟩ := List.mem_map.1 (mem_of_mem_sortEntries mem)
  have other : name ∉ names := by simpa using (List.mem_filter.1 kept).2
  exact ⟨other, value.canonical_sorted⟩

end Fields

namespace Codec

variable {α σ : Type} {name : String} {fields : Fields α} {make : α → Dictionary Value → σ}
  {parts : σ → α × Dictionary Value}

/-- A record is written without repetitions if its fields have names of their own. -/
theorem distinct_record [lawful : fields.Lawful] [distinct : fields.Distinct]
    (back : ∀ values extra, parts (make values extra) = (values, extra))
    (names : fields.names.Nodup) :
  (record name fields make parts).Distinct
  where
  distinct_write reads := by
    obtain ⟨entries, rfl, values, readsFields, rfl⟩ := reads_record.1 reads
    simp only [record, back]
    apply Value.Distinct.object
    · rw [List.map_append, lawful.names_write]
      refine List.nodup_append.2 ⟨names, (Dictionary.sorted _).nodup, ?_⟩
      rintro wanted isField _ isOther rfl
      obtain ⟨member, mem, rfl⟩ := List.mem_map.1 isOther
      exact (Fields.not_mem_of_mem_others mem).1 isField
    · intro member mem
      rcases List.mem_append.1 mem with isField | isOther
      · exact distinct.distinct_write readsFields member isField
      · exact (Fields.not_mem_of_mem_others isOther).2.distinct

end Codec

end ConfigTemplate.Json
