import ConfigTemplate.Bindings.Builder
import ConfigTemplate.Bindings.Sources
import ConfigTemplate.Proofs.Dictionary
import Mathlib.Data.List.TakeWhile

/-!
# Readings of entries

Whatever its kind, a source of bindings is a list of entries that are read one by one, each by
itself.  The bindings of the source are there if every entry can be read, and then the last entry of
a name decides about it: `addReadings_eq_ok_iff`.  Otherwise the first entry that cannot be read
ends the source: `addReadings_eq_error_iff`.
-/

namespace ConfigTemplate.Bindings

/-- What an entry becomes: a name with its value, or the reason why it is refused. -/
abbrev Reading := Except Error (String × Scalar)

/-- What a free text becomes under a name. -/
def readNamed (name raw : String) : Reading := (readRaw name raw).map (name, ·)

/-- What a pair becomes. -/
def readPair (pair : String) : Reading := do
  let (name, raw) ← splitPair pair
  readNamed name raw

/-- What a member of an object becomes. -/
def readMember (member : String × Json.Value) : Reading :=
  (readJson member.1 member.2).map (member.1, ·)

/-- What a typed entry becomes. -/
def readTyped (entry : String × Scalar) : Reading :=
  (checked entry.1 entry.2).map (entry.1, ·)

/-- What a variable becomes, if it is set. -/
def readVariable? (value? : String → Option String) (name : String) : Option Reading :=
  (value? name).map (readNamed name)

/-- Adds the entries of readings; the first that is refused ends them. -/
def addReadings (b : Bindings) : List Reading → Except Error Bindings
  | [] => .ok b
  | reading :: rest => do
    let (name, v) ← reading
    (b.insert name v).addReadings rest

theorem addReadings_map_insert (b : Bindings) (name : String) (result : Except Error Scalar)
    (rest : List Reading) :
  b.addReadings (result.map (name, ·) :: rest)
    = (result.map (b.insert name) >>= fun b => b.addReadings rest)
  := by
  cases result with
  | error e => rfl
  | ok v => rfl

theorem addPairs_eq (b : Bindings) (pairs : List String) :
  b.addPairs pairs = b.addReadings (pairs.map readPair)
  := by
  induction pairs generalizing b with
  | nil => rfl
  | cons pair rest ih =>
    rw [addPairs, List.map_cons, readPair]
    cases splitPair pair with
    | error e => rfl
    | ok nameAndRaw =>
      obtain ⟨name, raw⟩ := nameAndRaw
      change (b.setRaw name raw >>= fun b => b.addPairs rest)
        = b.addReadings (readNamed name raw :: _)
      rw [readNamed, addReadings_map_insert, setRaw]
      simp only [ih]

theorem addMembers_eq (b : Bindings) (members : List (String × Json.Value)) :
  b.addMembers members = b.addReadings (members.map readMember)
  := by
  induction members generalizing b with
  | nil => rfl
  | cons member rest ih =>
    obtain ⟨name, value⟩ := member
    rw [addMembers, List.map_cons, readMember, addReadings_map_insert, setJson]
    simp only [ih]

theorem ofJsonText_object {text : String} {members : List (String × Json.Value)}
    (parsed : Json.parse text = .ok (.object members)) :
  ofJsonText text = empty.addReadings (members.map readMember)
  := by
  rw [ofJsonText, parsed]
  exact addMembers_eq empty members

theorem addVariables_eq (value? : String → Option String) (b : Bindings) (names : List String) :
  addVariables value? b names = b.addReadings (names.filterMap (readVariable? value?))
  := by
  induction names generalizing b with
  | nil => rfl
  | cons name rest ih =>
    rw [addVariables, List.filterMap_cons, readVariable?]
    cases value? name with
    | none => apply ih
    | some raw =>
      simp only [Option.map_some]
      rw [readNamed, addReadings_map_insert, setRaw]
      simp only [ih]

theorem addEntries_eq (b : Bindings) (entries : List (String × Scalar)) :
  b.addEntries entries = b.addReadings (entries.map readTyped)
  := by
  induction entries generalizing b with
  | nil => rfl
  | cons entry rest ih =>
    obtain ⟨name, v⟩ := entry
    rw [addEntries, List.map_cons, readTyped, addReadings_map_insert, set]
    simp only [ih]

/-! ### Pairs -/

/-- A pair spells a name and a raw text: the raw text is all that stands behind the first equals
sign, and the name is what stands in front of it, blanks around it apart. -/
def Spells (pair name raw : String) : Prop :=
  ∃ key, pair.toList = key ++ '=' :: raw.toList ∧ '=' ∉ key ∧ name.toList = Text.trimChars key
    ∧ name ≠ ""

theorem splitPair_of_spells {pair name raw : String} (spells : Spells pair name raw) :
  splitPair pair = .ok (name, raw)
  := by
  obtain ⟨key, shape, noEquals, trimmed, named⟩ := spells
  have inKey : ∀ c ∈ key, (c != '=') = true := by
    intro c mem
    rw [bne_iff_ne]
    rintro rfl
    exact noEquals mem
  simp [splitPair, shape, List.takeWhile_append_of_pos inKey, List.dropWhile_append_of_pos inKey,
    ← trimmed, named]

theorem spells_of_splitPair {pair name raw : String} (split : splitPair pair = .ok (name, raw)) :
  Spells pair name raw
  := by
  have whole := List.takeWhile_append_dropWhile (p := (· != '=')) (l := pair.toList)
  unfold splitPair at split
  dsimp only at split
  split at split
  · next c rest behind =>
    have equals := List.head?_dropWhile_not (· != '=') pair.toList
    rw [behind] at equals whole
    obtain rfl : c = '=' := by simpa using equals
    split at split
    · contradiction
    · next filled =>
      obtain ⟨rfl, rfl⟩ := Prod.mk.inj (Except.ok.inj split)
      refine ⟨_, by simpa using whole.symm, ?_, by simp, ?_⟩
      · intro mem
        have := List.mem_takeWhile_imp mem
        contradiction
      · simpa using filled
  · contradiction

/-- A pair is split as it spells. -/
theorem splitPair_eq_ok_iff {pair name raw : String} :
  splitPair pair = .ok (name, raw) ↔ Spells pair name raw
  := ⟨spells_of_splitPair, splitPair_of_spells⟩

/-! ### Sources that are read -/

/-- The bindings of entries; of two with one name the later stays. -/
def ofEntries (entries : List (String × Scalar)) : Bindings := ⟨.ofList entries⟩

theorem addReadings_eq_insertAll_iff {b b' : Bindings} {readings : List Reading} :
  b.addReadings readings = .ok b'
    ↔ ∃ entries, readings = entries.map Except.ok ∧ b' = ⟨b.values.insertAll entries⟩
  := by
  induction readings generalizing b with
  | nil =>
    constructor
    · rintro ⟨⟩
      exact ⟨[], rfl, rfl⟩
    · rintro ⟨entries, none, rfl⟩
      obtain rfl := List.map_eq_nil_iff.1 none.symm
      rfl
  | cons reading rest ih =>
    cases reading with
    | error e =>
      constructor
      · intro added
        contradiction
      · rintro ⟨entries, shape, -⟩
        cases entries with
        | nil => contradiction
        | cons entry entries => simp at shape
    | ok entry =>
      change (b.insert entry.1 entry.2).addReadings rest = .ok b' ↔ _
      rw [ih]
      constructor
      · rintro ⟨entries, rfl, rfl⟩
        exact ⟨entry :: entries, rfl, rfl⟩
      · rintro ⟨entries, shape, rfl⟩
        cases entries with
        | nil => contradiction
        | cons first entries =>
          obtain ⟨same, rfl⟩ := List.cons.inj shape
          obtain rfl := Except.ok.inj same
          exact ⟨entries, rfl, rfl⟩

/-- A source is read if every entry of it is. -/
theorem addReadings_eq_ok_iff {b : Bindings} {readings : List Reading} :
  empty.addReadings readings = .ok b
    ↔ ∃ entries, readings = entries.map Except.ok ∧ b = ofEntries entries
  := addReadings_eq_insertAll_iff

/-- The refusal that comes first among readings. -/
def FirstRefusal (readings : List Reading) (e : Error) : Prop :=
  ∃ front back, readings = front ++ .error e :: back ∧ ∀ reading ∈ front, reading.isOk = true

/-- Otherwise the first entry that is refused ends the source. -/
theorem addReadings_eq_error_iff {b : Bindings} {readings : List Reading} {e : Error} :
  b.addReadings readings = .error e ↔ FirstRefusal readings e
  := by
  induction readings generalizing b with
  | nil =>
    constructor
    · intro added
      contradiction
    · rintro ⟨front, back, shape, -⟩
      simp at shape
  | cons reading rest ih =>
    cases reading with
    | error e' =>
      constructor
      · rintro ⟨⟩
        exact ⟨[], rest, rfl, List.forall_mem_nil _⟩
      · rintro ⟨front, back, shape, readable⟩
        cases front with
        | nil =>
          obtain ⟨same, -⟩ := List.cons.inj shape
          obtain rfl := Except.error.inj same
          rfl
        | cons first front =>
          obtain ⟨rfl, -⟩ := List.cons.inj shape
          have := readable _ List.mem_cons_self
          contradiction
    | ok entry =>
      change (b.insert entry.1 entry.2).addReadings rest = .error e ↔ _
      rw [ih]
      constructor
      · rintro ⟨front, back, rfl, readable⟩
        exact ⟨.ok entry :: front, back, rfl, List.forall_mem_cons.2 ⟨rfl, readable⟩⟩
      · rintro ⟨front, back, shape, readable⟩
        cases front with
        | nil => simp at shape
        | cons first front =>
          obtain ⟨rfl, rfl⟩ := List.cons.inj shape
          exact ⟨front, back, rfl, (List.forall_mem_cons.1 readable).2⟩

/-- There is a first refusal if there is any. -/
theorem exists_firstRefusal_iff {readings : List Reading} :
  (∃ e, FirstRefusal readings e) ↔ ∃ reading ∈ readings, reading.isOk = false
  := by
  constructor
  · rintro ⟨e, front, back, rfl, -⟩
    exact ⟨.error e, by simp, rfl⟩
  · rintro ⟨reading, mem, refused⟩
    cases added : empty.addReadings readings with
    | error e => exact ⟨e, addReadings_eq_error_iff.1 added⟩
    | ok b =>
      obtain ⟨entries, rfl, -⟩ := addReadings_eq_ok_iff.1 added
      obtain ⟨entry, -, rfl⟩ := List.mem_map.1 mem
      contradiction

/-! ### Values of names -/

/-- The value of a name is that of the last entry with the name. -/
theorem get?_ofEntries_eq_some_iff {entries : List (String × Scalar)} {name : String} {v : Scalar} :
  (ofEntries entries).get? name = some v
    ↔ ∃ front back, entries = front ++ (name, v) :: back ∧ ∀ w, (name, w) ∉ back
  := by
  rw [ofEntries, get?, Dictionary.get?_ofList, List.lookup_eq_some_iff]
  constructor
  · rintro ⟨front, back, shape, differ⟩
    refine ⟨back.reverse, front.reverse, ?_, ?_⟩
    · rw [← List.reverse_reverse entries, shape]
      simp
    · intro w mem
      have := differ _ (List.mem_reverse.1 mem)
      simp at this
  · rintro ⟨front, back, rfl, last⟩
    refine ⟨back.reverse, front.reverse, by simp, ?_⟩
    rintro ⟨other, w⟩ mem
    have differ : name ≠ other := by
      rintro rfl
      exact last w (List.mem_reverse.1 mem)
    simpa using differ

/-- Where the entries of a name have the same value, that is the value of the name. -/
theorem get?_ofEntries_eq_some_iff_mem {entries : List (String × Scalar)} {name : String}
    (unique : ∀ v w, (name, v) ∈ entries → (name, w) ∈ entries → v = w) {v : Scalar} :
  (ofEntries entries).get? name = some v ↔ (name, v) ∈ entries
  := by
  have listed {w : Scalar} (found : (ofEntries entries).get? name = some w) :
      (name, w) ∈ entries := by
    obtain ⟨front, back, rfl, -⟩ := get?_ofEntries_eq_some_iff.1 found
    simp
  refine ⟨listed, fun mem => ?_⟩
  cases found : (ofEntries entries).get? name with
  | none =>
    rw [ofEntries, get?, Dictionary.get?_ofList, List.lookup_eq_none_iff] at found
    have := found _ (List.mem_reverse.2 mem)
    simp at this
  | some w => rw [unique v w mem (listed found)]

/-- An entry of a source that is read is one of the readings. -/
theorem mem_entries_iff {readings : List Reading} {entries : List (String × Scalar)}
    (read : readings = entries.map Except.ok) {entry : String × Scalar} :
  entry ∈ entries ↔ .ok entry ∈ readings
  := by
  rw [read, List.mem_map]
  constructor
  · intro mem
    exact ⟨entry, mem, rfl⟩
  · rintro ⟨_, mem, same⟩
    exact Except.ok.inj same ▸ mem

/-- The value of a name is the one that is read from the last entry with the name. -/
theorem get?_ofEntries_of_map {α : Type} {read : α → Reading} {list : List α}
    {entries : List (String × Scalar)} (readings : list.map read = entries.map Except.ok)
    {name : String} {v : Scalar} :
  (ofEntries entries).get? name = some v
    ↔ ∃ front x back, list = front ++ x :: back ∧ read x = .ok (name, v)
      ∧ ∀ later ∈ back, ∀ w, read later ≠ .ok (name, w)
  := by
  rw [get?_ofEntries_eq_some_iff]
  constructor
  · rintro ⟨front, back, rfl, last⟩
    rw [List.map_append, List.map_cons] at readings
    obtain ⟨before, rest, rfl, -, shape⟩ := List.map_eq_append_iff.1 readings
    obtain ⟨x, after, rfl, here, behind⟩ := List.map_eq_cons_iff.1 shape
    refine ⟨before, x, after, rfl, here, ?_⟩
    intro later mem w read
    exact last w ((mem_entries_iff behind).2 (read ▸ List.mem_map_of_mem mem))
  · rintro ⟨before, x, after, rfl, here, last⟩
    rw [List.map_append, List.map_cons, here] at readings
    obtain ⟨front, rest, rfl, -, shape⟩ := List.map_eq_append_iff.1 readings.symm
    obtain ⟨entry, back, rfl, same, behind⟩ := List.map_eq_cons_iff.1 shape
    obtain rfl := Except.ok.inj same
    refine ⟨front, back, rfl, ?_⟩
    intro w mem
    obtain ⟨later, inAfter, read⟩ := List.mem_map.1 ((mem_entries_iff behind.symm).1 mem)
    exact last later inAfter w read

theorem map_eq_ok_entry_iff {name : String} {becomes : Except Error Scalar}
    {entry : String × Scalar} :
  becomes.map (name, ·) = .ok entry ↔ entry.1 = name ∧ becomes = .ok entry.2
  := by
  obtain ⟨other, v⟩ := entry
  cases becomes with
  | error e => simp [Except.map]
  | ok w => simp [Except.map, eq_comm]

theorem readNamed_eq_ok_iff {name raw : String} {entry : String × Scalar} :
  readNamed name raw = .ok entry ↔ entry.1 = name ∧ readRaw name raw = .ok entry.2
  := map_eq_ok_entry_iff

theorem readMember_eq_ok_iff {member : String × Json.Value} {entry : String × Scalar} :
  readMember member = .ok entry ↔ entry.1 = member.1 ∧ readJson member.1 member.2 = .ok entry.2
  := map_eq_ok_entry_iff

theorem readTyped_eq_ok_iff {typed entry : String × Scalar} :
  readTyped typed = .ok entry ↔ entry.1 = typed.1 ∧ checked typed.1 typed.2 = .ok entry.2
  := map_eq_ok_entry_iff

theorem readPair_eq_ok_iff {pair : String} {entry : String × Scalar} :
  readPair pair = .ok entry ↔ ∃ raw, Spells pair entry.1 raw ∧ readRaw entry.1 raw = .ok entry.2
  := by
  simp only [← splitPair_eq_ok_iff]
  rw [readPair]
  cases splitPair pair with
  | error e => simp [bind, Except.bind]
  | ok nameAndRaw =>
    obtain ⟨name, raw⟩ := nameAndRaw
    change readNamed name raw = .ok entry ↔ _
    rw [readNamed_eq_ok_iff]
    constructor
    · rintro ⟨rfl, read⟩
      exact ⟨raw, rfl, read⟩
    · rintro ⟨_, ⟨⟩, read⟩
      exact ⟨rfl, read⟩

theorem isOk_map {α β : Type} (f : α → β) (result : Except Error α) :
  (result.map f).isOk = result.isOk
  := by
  cases result <;> rfl

theorem isOk_readNamed (name raw : String) :
  (readNamed name raw).isOk = (readRaw name raw).isOk
  := isOk_map _ _

theorem isOk_readMember (member : String × Json.Value) :
  (readMember member).isOk = (readJson member.1 member.2).isOk
  := isOk_map _ _

/-- A pair is refused if every raw text that it spells is. -/
theorem isOk_readPair_eq_false_iff (pair : String) :
  (readPair pair).isOk = false
    ↔ ∀ name raw, Spells pair name raw → (readRaw name raw).isOk = false
  := by
  simp only [← splitPair_eq_ok_iff]
  rw [readPair]
  cases splitPair pair with
  | error e => exact ⟨nofun, fun _ => rfl⟩
  | ok nameAndRaw =>
    obtain ⟨name, raw⟩ := nameAndRaw
    change (readNamed name raw).isOk = false ↔ _
    rw [isOk_readNamed]
    constructor
    · rintro refused _ _ ⟨⟩
      exact refused
    · intro refused
      exact refused name raw rfl

end ConfigTemplate.Bindings
