import ConfigTemplate.Proofs.Json.Repetition

/-!
# Unknown members

A record keeps the members that are none of its fields, and does not look into them.  Two values are
alike for a shape if such members are all that they differ in, at any depth.  A codec is inert to
unknown members if it reads alike values alike: both or none of them, and what it reads differs in
nothing but the members that are kept.
-/

namespace ConfigTemplate.Json

/-- The values of the members of a name, in their order. -/
def valuesOf (name : String) (members : List (String × Value)) : List Value :=
  (members.filter (·.1 == name)).map Prod.snd

/-! ### Values with other unknown members -/

namespace Shape

mutual

/-- The values are the same up to the members of records that are no fields.  Objects of records have
the same fields, with values that are alike; objects of dictionaries have the same names, and their
entries are alike. -/
def Alike : Shape → Value → Value → Prop
  | .record fields, .object members, .object others => AlikeFields fields members others
  | .dictionary _ entry, .object members, .object others => Corresponding entry.Alike members others
  | _, v, w => v = w
termination_by structural shape => shape

/-- Under the name of each field there are values that are alike. -/
def AlikeFields : List (String × Shape) → List (String × Value) → List (String × Value) → Prop
  | [], _, _ => True
  | (name, shape) :: rest, members, others =>
    List.Forall₂ shape.Alike (valuesOf name members) (valuesOf name others)
      ∧ AlikeFields rest members others
termination_by structural fields => fields

end

variable {fields : List (String × Shape)} {accepts : Value → Prop} {entry : Shape}
  {members others : List (String × Value)} {v w : Value}

@[simp]
theorem alike_plain :
  plain.Alike v w ↔ v = w
  := Iff.rfl

theorem alike_record :
  (record fields).Alike v w
    ↔ (∃ members others, v = .object members ∧ w = .object others
        ∧ AlikeFields fields members others)
      ∨ (v = w ∧ ∀ members, v ≠ .object members)
  := by
  cases v <;> cases w <;> simp [Alike]

theorem alike_dictionary :
  (dictionary accepts entry).Alike v w
    ↔ (∃ members others, v = .object members ∧ w = .object others
        ∧ Corresponding entry.Alike members others)
      ∨ (v = w ∧ ∀ members, v ≠ .object members)
  := by
  cases v <;> cases w <;> simp [Alike]

theorem alikeFields_iff :
  AlikeFields fields members others
    ↔ ∀ field ∈ fields,
        List.Forall₂ field.2.Alike (valuesOf field.1 members) (valuesOf field.1 others)
  := by
  induction fields with
  | nil => simp [AlikeFields]
  | cons field rest ih => rw [AlikeFields, ih, List.forall_mem_cons]

mutual

theorem Alike.symm :
    ∀ (shape : Shape) {v w : Value}, shape.Alike v w → shape.Alike w v
  | .plain, _, _, alike => Eq.symm alike
  | .record fields, v, w, alike => by
    rcases alike_record.1 alike with ⟨members, others, rfl, rfl, each⟩ | ⟨rfl, -⟩
    · exact AlikeFields.symm fields each
    · exact alike
  | .dictionary accepts entry, v, w, alike => by
    rcases alike_dictionary.1 alike with ⟨members, others, rfl, rfl, each⟩ | ⟨rfl, -⟩
    · exact each.flip.imp fun _ _ both => ⟨both.1.symm, Alike.symm entry both.2⟩
    · exact alike
termination_by structural shape => shape

theorem AlikeFields.symm :
    ∀ (fields : List (String × Shape)) {members others : List (String × Value)},
      AlikeFields fields members others → AlikeFields fields others members
  | [], _, _, _ => trivial
  | (_, shape) :: rest, _, _, ⟨first, later⟩ =>
    ⟨first.flip.imp fun _ _ alike => Alike.symm shape alike, AlikeFields.symm rest later⟩
termination_by structural fields => fields

end

end Shape

/-! ### Inert codecs -/

namespace Codec

variable {α : Type}

/-- From values that are alike the codec reads results of which the same is known. -/
class Inert (codec : Codec α) (shape : outParam Shape) (known : outParam (α → α)) : Prop where
  exists_reads {v w : Value} {x : α} (alike : shape.Alike v w) (reads : codec.Reads v x) :
    ∃ y, codec.Reads w y ∧ known y = known x

/-- What holds no records is read from a single value. -/
theorem Inert.of_plain (codec : Codec α) :
  codec.Inert .plain id
  where
  exists_reads {v w x} alike reads := by
    obtain rfl := Shape.alike_plain.1 alike
    exact ⟨x, reads, rfl⟩

instance inert_boolean : boolean.Inert .plain id := .of_plain boolean

instance inert_string : string.Inert .plain id := .of_plain string

instance inert_number : number.Inert .plain id := .of_plain number

instance inert_whole (w : Width) : (whole w).Inert .plain id := .of_plain (whole w)

instance inert_list (item : Codec α) : (list item).Inert .plain id := .of_plain (list item)

/-- Values that correspond and are alike are read one by one. -/
theorem exists_corresponding_of_alike {item : Codec α} {entry : Shape} {known : α → α}
    [inert : item.Inert entry known] {members others : List (String × Value)}
    {xs : List (String × α)} (alike : Corresponding entry.Alike members others)
    (each : Corresponding item.Reads members xs) :
  ∃ ys, Corresponding item.Reads others ys
    ∧ Corresponding (fun y x => known y = known x) ys xs
  := by
  induction alike generalizing xs with
  | nil =>
    obtain rfl := List.forall₂_nil_left_iff.1 each
    exact ⟨[], .nil, .nil⟩
  | @cons member other rest rest' same _ ih =>
    obtain ⟨⟨name, x⟩, later, ⟨isName, reads⟩, readsRest, rfl⟩ := List.forall₂_cons_left_iff.1 each
    obtain ⟨y, readsOther, sameKnown⟩ := inert.exists_reads same.2 reads
    obtain ⟨ys, readsOthers, sameOthers⟩ := ih readsRest
    exact ⟨(name, y) :: ys, .cons ⟨same.1.symm.trans isName, readsOther⟩ readsOthers,
      .cons ⟨rfl, sameKnown⟩ sameOthers⟩

instance inert_dictionary (item : Codec α) {entry : Shape} {known : α → α}
    [item.Inert entry known] :
    (dictionary item).Inert (.dictionary item.Accepts entry) (Dictionary.map known) where
  exists_reads {v w d} alike reads := by
    obtain ⟨members, rfl, xs, each, rfl⟩ := reads_dictionary.1 reads
    rcases Shape.alike_dictionary.1 alike with ⟨_, others, same, rfl, alikeEach⟩ | ⟨-, isObject⟩
    · obtain rfl := Value.object.inj same
      obtain ⟨ys, readsOthers, sameKnown⟩ := exists_corresponding_of_alike alikeEach each
      refine ⟨.ofList ys, reads_dictionary.2 ⟨others, rfl, ys, readsOthers, rfl⟩, ?_⟩
      apply Dictionary.ext
      rw [Dictionary.entries_map, Dictionary.entries_map, Dictionary.entries_ofList,
        Dictionary.entries_ofList]
      exact sameKnown.sortEntries.map_eq
    · exact absurd rfl (isObject members)

end Codec

/-! ### Records -/

namespace Fields

variable {α β : Type}

/-- From members that are alike the fields are read with results of which the same is known. -/
class Inert (fields : Fields α) (shapes : outParam (List (String × Shape)))
    (known : outParam (α → α)) : Prop where
  exists_reads {members others : List (String × Value)} {x : α}
    (alike : Shape.AlikeFields shapes members others) (reads : fields.Reads members x) :
    ∃ y, fields.Reads others y ∧ known y = known x

/-- A field is read from the only value of its name. -/
theorem reads_field_iff {name : String} {codec : Codec α} {members : List (String × Value)}
    {x : α} :
  (field name codec).Reads members x ↔ ∃ value, valuesOf name members = [value]
    ∧ codec.Reads value x
  := by
  rw [Reads, read_field_iff, named, List.filter_map, valuesOf]
  constructor
  · rintro ⟨member, only, read⟩
    obtain ⟨entry, single, rfl⟩ := List.map_eq_singleton_iff.1 only
    have filtered : members.filter (·.1 == name) = [entry] := single
    exact ⟨entry.2, by rw [filtered, List.map_singleton], read⟩
  · rintro ⟨value, only, read⟩
    obtain ⟨entry, single, rfl⟩ := List.map_eq_singleton_iff.1 only
    have filtered : members.filter ((fun member : Member => member.key == name) ∘ Member.ofEntry)
        = [entry] := single
    exact ⟨Member.ofEntry entry, by rw [filtered, List.map_singleton], read⟩

instance inert_field (name : String) (codec : Codec α) {shape : Shape} {known : α → α}
    [inert : codec.Inert shape known] : (field name codec).Inert [(name, shape)] known where
  exists_reads {members others x} alike reads := by
    obtain ⟨value, only, readsValue⟩ := reads_field_iff.1 reads
    have both := alike.1
    rw [only, List.forall₂_cons_left_iff] at both
    obtain ⟨other, rest, alikeValue, none, onlyOther⟩ := both
    obtain rfl := List.forall₂_nil_left_iff.1 none
    obtain ⟨y, readsOther, same⟩ := inert.exists_reads alikeValue readsValue
    exact ⟨y, reads_field_iff.2 ⟨other, onlyOther, readsOther⟩, same⟩

instance inert_and (a : Fields α) (b : Fields β) {shapes others : List (String × Shape)}
    {knownA : α → α} {knownB : β → β} [inertA : a.Inert shapes knownA]
    [inertB : b.Inert others knownB] :
    (a.and b).Inert (shapes ++ others) (Prod.map knownA knownB) where
  exists_reads {members others x} alike reads := by
    obtain ⟨readsA, readsB⟩ := reads_and.1 reads
    rw [Shape.alikeFields_iff, List.forall_mem_append, ← Shape.alikeFields_iff,
      ← Shape.alikeFields_iff] at alike
    obtain ⟨y, readsFirst, sameFirst⟩ := inertA.exists_reads alike.1 readsA
    obtain ⟨z, readsSecond, sameSecond⟩ := inertB.exists_reads alike.2 readsB
    exact ⟨(y, z), reads_and.2 ⟨readsFirst, readsSecond⟩, Prod.ext sameFirst sameSecond⟩

end Fields

namespace Codec

variable {α σ : Type}

/-- A record with inert fields is inert, if all that is known of it is what is known of its
fields. -/
theorem inert_record {name : String} {fields : Fields α} {make : α → Dictionary Value → σ}
    {parts : σ → α × Dictionary Value} {shapes listed : List (String × Shape)}
    {knownFields : α → α} {known : σ → σ} [inert : fields.Inert shapes knownFields]
    (same : shapes = listed)
    (known_make : ∀ values extra, known (make values extra) = make (knownFields values) .empty) :
  (record name fields make parts).Inert (.record listed) known
  where
  exists_reads {v w x} alike reads := by
    subst same
    obtain ⟨members, rfl, values, readsFields, rfl⟩ := reads_record.1 reads
    rcases Shape.alike_record.1 alike with ⟨_, others, same, rfl, alikeFields⟩ | ⟨-, isObject⟩
    · obtain rfl := Value.object.inj same
      obtain ⟨values', readsOthers, sameKnown⟩ := inert.exists_reads alikeFields readsFields
      refine ⟨_, reads_record.2 ⟨others, rfl, values', readsOthers, rfl⟩, ?_⟩
      rw [known_make, known_make, sameKnown]
    · exact absurd rfl (isObject members)

end Codec

end ConfigTemplate.Json
