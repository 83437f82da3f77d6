import ConfigTemplate.Proofs.Bindings.Readings
import ConfigTemplate.Proofs.Json.PrettyText

/-!
# The channels of free text

A free text reaches a documented placeholder in three ways: behind the equals sign of a pair, as the
value of a variable, and as a string of a JSON object.  All three hand it to the domain of the
placeholder as it is, so it makes no difference which way the texts take, or in which order:
`channels_agree`.
-/

namespace ConfigTemplate.Bindings

/-! ### The same readings in another order -/

/-- Entries that have one value for each name make the same bindings in any order. -/
theorem ofEntries_congr {entries others : List (String × Scalar)}
    (same : ∀ entry, entry ∈ entries ↔ entry ∈ others)
    (unique : ∀ name v w, (name, v) ∈ entries → (name, w) ∈ entries → v = w) :
  ofEntries entries = ofEntries others
  := by
  have found (name : String) : (ofEntries entries).get? name = (ofEntries others).get? name := by
    ext v
    rw [get?_ofEntries_eq_some_iff_mem (unique name), get?_ofEntries_eq_some_iff_mem, same]
    simp only [← same]
    exact unique name
  exact congrArg Bindings.mk (Dictionary.eq_of_get? found)

/-- Sources that come to the same are both read, with the same bindings, or both refused. -/
def Agree (first second : Except Error Bindings) : Prop :=
  (∃ b, first = .ok b ∧ second = .ok b) ∨ (∃ e, first = .error e) ∧ ∃ e, second = .error e

/-- Readings that have one value for each name come to the same in any order. -/
theorem agree_addReadings {readings others : List Reading}
    (same : ∀ reading, reading ∈ readings ↔ reading ∈ others)
    (unique : ∀ name v w, .ok (name, v) ∈ readings → .ok (name, w) ∈ readings → v = w) :
  Agree (empty.addReadings readings) (empty.addReadings others)
  := by
  have refused : (∃ e, FirstRefusal readings e) ↔ ∃ e, FirstRefusal others e := by
    simp only [exists_firstRefusal_iff, same]
  cases first : empty.addReadings readings with
  | error e =>
    obtain ⟨e', second⟩ := refused.1 ⟨e, addReadings_eq_error_iff.1 first⟩
    exact .inr ⟨⟨e, rfl⟩, e', addReadings_eq_error_iff.2 second⟩
  | ok b =>
    cases second : empty.addReadings others with
    | error e =>
      obtain ⟨e', first'⟩ := refused.2 ⟨e, addReadings_eq_error_iff.1 second⟩
      rw [addReadings_eq_error_iff.2 first'] at first
      contradiction
    | ok c =>
      obtain ⟨entries, rfl, rfl⟩ := addReadings_eq_ok_iff.1 first
      obtain ⟨entries', rfl, rfl⟩ := addReadings_eq_ok_iff.1 second
      have equal : ofEntries entries = ofEntries entries' := by
        apply ofEntries_congr
        · intro entry
          rw [mem_entries_iff rfl, mem_entries_iff rfl, same]
        · intro name v w
          rw [mem_entries_iff rfl, mem_entries_iff rfl]
          exact unique name v w
      exact .inl ⟨_, rfl, congrArg Except.ok equal.symm⟩

/-! ### Documented names -/

/-- A documented name has no equals sign and no blanks around it. -/
theorem documented_name :
  ∀ name ∈ documentedNames, (documented? name).isSome = true ∧ '=' ∉ name.toList
    ∧ Text.trimChars name.toList = name.toList ∧ name ≠ ""
  := by
  decide

theorem readPair_documented {name : String} (documented : name ∈ documentedNames) (raw : String) :
  readPair (name ++ "=" ++ raw) = readNamed name raw
  := by
  obtain ⟨-, noEquals, trimmed, named⟩ := documented_name name documented
  have spells : Spells (name ++ "=" ++ raw) name raw :=
    ⟨name.toList, by simp, noEquals, trimmed.symm, named⟩
  rw [readPair, splitPair_of_spells spells]
  rfl

/-- A string of JSON is taken for free text. -/
theorem readMember_documented {name : String} (documented : name ∈ documentedNames) (raw : String) :
  readMember (name, .string raw) = readNamed name raw
  := by
  obtain ⟨isSome, -⟩ := documented_name name documented
  obtain ⟨entry, found⟩ := Option.isSome_iff_exists.1 isSome
  rw [readMember, readNamed, readJson, readRaw, found]
  rfl

/-! ### The three channels -/

/-- What the texts of a dictionary become. -/
def textReadings (m : Dictionary String) : List Reading :=
  m.entries.map fun (name, raw) => readNamed name raw

/-- The object whose members are the texts of a dictionary. -/
def textObject (m : Dictionary String) : Json.Value :=
  .object (m.entries.map fun (name, raw) => (name, .string raw))

/-- Any texts are the members of an object in JSON. -/
theorem parse_textObject (m : Dictionary String) :
  Json.parse ((textObject m).pretty ++ "\n") = .ok (textObject m)
  := by
  have strings {P : Json.Value → Prop} (each : ∀ raw, P (.string raw)) :
      ∀ member ∈ m.entries.map fun (name, raw) => (name, Json.Value.string raw), P member.2 := by
    intro member mem
    obtain ⟨entry, -, rfl⟩ := List.mem_map.1 mem
    exact each entry.2
  have canonical : (textObject m).Canonical := by
    refine .object ?_ (strings .string)
    rw [SortedEntries, List.pairwise_map]
    exact m.sorted
  have integral : (textObject m).Integral := .object (strings .string)
  have shallow : (textObject m).Shallow Json.depthLimit := .object (strings (.string _))
  rw [Json.Value.parse_pretty integral shallow, canonical.sorted_eq]

theorem textReadings_unique (m : Dictionary String) :
  ∀ name v w, .ok (name, v) ∈ textReadings m → .ok (name, w) ∈ textReadings m → v = w
  := by
  have read (name : String) (v : Scalar) (mem : .ok (name, v) ∈ textReadings m) :
      ∃ raw, m.get? name = some raw ∧ readRaw name raw = .ok v := by
    obtain ⟨⟨_, raw⟩, held, isRead⟩ := List.mem_map.1 mem
    obtain ⟨rfl, value⟩ := readNamed_eq_ok_iff.1 isRead
    exact ⟨raw, m.sorted.lookup_eq_some_iff.2 held, value⟩
  intro name v w first second
  obtain ⟨raw, held, value⟩ := read name v first
  obtain ⟨raw', held', value'⟩ := read name w second
  obtain rfl := Option.some.inj (held.symm.trans held')
  exact Except.ok.inj (value.symm.trans value')

section

variable {m : Dictionary String} (documented : ∀ name ∈ m.names, name ∈ documentedNames)

include documented

theorem map_readPair :
  (m.entries.map fun (name, raw) => name ++ "=" ++ raw).map readPair = textReadings m
  := by
  rw [List.map_map, textReadings]
  apply List.map_congr_left
  intro entry mem
  exact readPair_documented (documented entry.1 (List.mem_map_of_mem mem)) entry.2

theorem map_readMember :
  (m.entries.map fun (name, raw) => (name, Json.Value.string raw)).map readMember = textReadings m
  := by
  rw [List.map_map, textReadings]
  apply List.map_congr_left
  intro entry mem
  exact readMember_documented (documented entry.1 (List.mem_map_of_mem mem)) entry.2

end

theorem filterMap_readVariable? (m : Dictionary String) :
  m.names.filterMap (readVariable? m.get?) = textReadings m
  := by
  rw [Dictionary.names, List.filterMap_map, textReadings, ← List.filterMap_eq_map]
  apply List.filterMap_congr
  intro entry mem
  have held : m.get? entry.1 = some entry.2 := m.sorted.lookup_eq_some_iff.2 mem
  simp [readVariable?, held]

/-- **The channels of free text agree.**  Texts for documented names make the same bindings as pairs
in any order, as variables looked up in any order, and as the strings of a JSON object, or else they
are refused in all three ways. -/
theorem channels_agree {m : Dictionary String}
    (documented : ∀ name ∈ m.names, name ∈ documentedNames) {pairs names : List String}
    {text : String}
    (spelled : pairs.Perm (m.entries.map fun (name, raw) => name ++ "=" ++ raw))
    (asked : names.Perm m.names)
    (parsed : Json.parse text = .ok (textObject m)) :
  (∃ b, ofPairs pairs = .ok b ∧ ofVariables names m.get? = .ok b ∧ ofJsonText text = .ok b)
    ∨ (∃ e, ofPairs pairs = .error e) ∧ (∃ e, ofVariables names m.get? = .error e)
      ∧ ∃ e, ofJsonText text = .error e
  := by
  have asPairs : (pairs.map readPair).Perm (textReadings m) := by
    rw [← map_readPair documented]
    exact spelled.map readPair
  have asVariables : (names.filterMap (readVariable? m.get?)).Perm (textReadings m) := by
    rw [← filterMap_readVariable? m]
    exact asked.filterMap _
  have asMembers : ofJsonText text = empty.addReadings (textReadings m) := by
    rw [ofJsonText_object parsed, map_readMember documented]
  have unique := textReadings_unique m
  have byPairs := agree_addReadings (fun _ => asPairs.mem_iff.symm) unique
  have byVariables := agree_addReadings (fun _ => asVariables.mem_iff.symm) unique
  rw [ofPairs, addPairs_eq, ofVariables, addVariables_eq, asMembers]
  rcases byPairs with ⟨b, read, first⟩ | ⟨⟨e, refused⟩, first⟩
  · rcases byVariables with ⟨b', read', second⟩ | ⟨⟨e, refused⟩, -⟩
    · obtain rfl := Except.ok.inj (read.symm.trans read')
      exact .inl ⟨b, first, second, read⟩
    · rw [read] at refused
      contradiction
  · rcases byVariables with ⟨b', read', -⟩ | ⟨-, second⟩
    · rw [read'] at refused
      contradiction
    · exact .inr ⟨first, second, e, refused⟩

/-- A text with an equals sign, quotes and a line break, and a number between blanks. -/
def freeTexts : Dictionary String :=
  .ofList [("CL_CLUSTER_PATH", "/é=\"a\"\n"), ("GBSIZE", " 0256\t")]

theorem channels_agree_freeTexts :
  ∃ b, ofPairs ["GBSIZE= 0256\t", "CL_CLUSTER_PATH=/é=\"a\"\n"] = .ok b
    ∧ ofVariables ["CL_CLUSTER_PATH", "GBSIZE"] freeTexts.get? = .ok b
    ∧ ofJsonText ((textObject freeTexts).pretty ++ "\n") = .ok b
  := by
  have order : ["GBSIZE= 0256\t", "CL_CLUSTER_PATH=/é=\"a\"\n"].Perm
      (freeTexts.entries.map fun (name, raw) => name ++ "=" ++ raw) := by
    decide
  rcases channels_agree (by decide) order (.refl _) (parse_textObject freeTexts)
    with agree | ⟨⟨e, refused⟩, -⟩
  · exact agree
  · have read : (ofPairs ["GBSIZE= 0256\t", "CL_CLUSTER_PATH=/é=\"a\"\n"]).isOk = true := by
      decide +kernel
    rw [refused] at read
    contradiction

end ConfigTemplate.Bindings
