import ConfigTemplate.Proofs.Bindings.Channels
import ConfigTemplate.Proofs.Bindings.History
import Mathlib.Data.List.Pairwise

/-!
# Lists of pairs

A list of pairs is read pair by pair, so two lists one after the other are read like each of them by
itself, and their bindings are merged.  A name has the value of the last pair that spells it; where
no two pairs spell the same name, their order does not matter: `pairs_decided`.
-/

namespace ConfigTemplate.Bindings

/-! ### Readings one after the other -/

theorem addReadings_append (b : Bindings) (readings others : List Reading) :
  b.addReadings (readings ++ others)
    = (b.addReadings readings >>= fun b => b.addReadings others)
  := by
  induction readings generalizing b with
  | nil => rfl
  | cons reading rest ih =>
    cases reading with
    | error e => rfl
    | ok entry => exact ih (b.insert entry.1 entry.2)

theorem merge_ofEntries (b : Bindings) (entries : List (String × Scalar)) :
  b.merge (ofEntries entries) = ⟨b.values.insertAll entries⟩
  := by
  apply eq_of_get?
  intro name
  rw [get?_merge, ofEntries, get?, Dictionary.get?_ofList]
  exact (b.values.get?_insertAll entries name).symm

/-- Readings are added to bindings as they are read without them and then merged. -/
theorem addReadings_eq_merge (b : Bindings) (readings : List Reading) :
  b.addReadings readings = (empty.addReadings readings).map b.merge
  := by
  cases read : empty.addReadings readings with
  | error e =>
    rw [addReadings_eq_error_iff] at read
    exact addReadings_eq_error_iff.2 read
  | ok c =>
    obtain ⟨entries, shape, rfl⟩ := addReadings_eq_ok_iff.1 read
    exact addReadings_eq_insertAll_iff.2 ⟨entries, shape, merge_ofEntries b entries⟩

/-! ### Pairs -/

/-- The first list is read before the second, and what the second gives is merged into what the
first one gives. -/
theorem ofPairs_append (pairs others : List String) :
  ofPairs (pairs ++ others) = do
    let b ← ofPairs pairs
    let c ← ofPairs others
    return b.merge c
  := by
  simp only [ofPairs, addPairs_eq, List.map_append, addReadings_append]
  -- the second list is read into the bindings of the first, not into none
  congr 1
  funext b
  rw [addReadings_eq_merge]
  cases empty.addReadings (others.map readPair) <;> rfl

theorem Spells.unique {pair name raw name' raw' : String} (spells : Spells pair name raw)
    (spells' : Spells pair name' raw') :
  name = name' ∧ raw = raw'
  := by
  rw [← splitPair_eq_ok_iff] at spells spells'
  exact Prod.mk.inj (Except.ok.inj (spells.symm.trans spells'))

variable {pairs others : List String} {b : Bindings} {name : String}

/-- Each pair of a list that is read spells a name and a raw text that can be read. -/
theorem exists_spells (read : ofPairs pairs = .ok b) {pair : String} (mem : pair ∈ pairs) :
  ∃ name raw v, Spells pair name raw ∧ readRaw name raw = .ok v
  := by
  rw [ofPairs, addPairs_eq] at read
  obtain ⟨entries, readings, -⟩ := addReadings_eq_ok_iff.1 read
  have inReadings : readPair pair ∈ entries.map Except.ok := readings ▸ List.mem_map_of_mem mem
  obtain ⟨⟨name, v⟩, -, readable⟩ := List.mem_map.1 inReadings
  obtain ⟨raw, spells, value⟩ := readPair_eq_ok_iff.1 readable.symm
  exact ⟨name, raw, v, spells, value⟩

/-- The last pair of a name decides about it. -/
theorem get?_ofPairs (read : ofPairs pairs = .ok b) (name : String) (v : Scalar) :
  b.get? name = some v
    ↔ ∃ front pair back raw, pairs = front ++ pair :: back ∧ Spells pair name raw
      ∧ readRaw name raw = .ok v ∧ ∀ later ∈ back, ∀ other, ¬Spells later name other
  := by
  have made := read
  rw [ofPairs, addPairs_eq] at read
  obtain ⟨entries, readings, rfl⟩ := addReadings_eq_ok_iff.1 read
  rw [get?_ofEntries_of_map readings]
  simp only [readPair_eq_ok_iff]
  constructor
  · rintro ⟨front, pair, back, rfl, ⟨raw, spells, value⟩, last⟩
    refine ⟨front, pair, back, raw, rfl, spells, value, ?_⟩
    intro later mem other spells'
    -- the list is read, so a later pair for the name would have given it a value as well
    have listed : later ∈ front ++ pair :: back := by simp [mem]
    obtain ⟨_, raw', w, spells'', value'⟩ := exists_spells made listed
    obtain ⟨rfl, rfl⟩ := spells'.unique spells''
    exact last later mem w (readPair_eq_ok_iff.2 ⟨other, spells', value'⟩)
  · rintro ⟨front, pair, back, raw, rfl, spells, value, last⟩
    refine ⟨front, pair, back, rfl, ⟨raw, spells, value⟩, ?_⟩
    intro later mem w readable
    obtain ⟨raw', spells', -⟩ := readPair_eq_ok_iff.1 readable
    exact last later mem raw' spells'

/-- The last pair of a name can be read, and gives the name its value. -/
theorem exists_get?_of_last (read : ofPairs pairs = .ok b) {front back : List String}
    {pair raw : String} (shape : pairs = front ++ pair :: back) (spells : Spells pair name raw)
    (last : ∀ later ∈ back, ∀ other, ¬Spells later name other) :
  ∃ v, readRaw name raw = .ok v ∧ b.get? name = some v
  := by
  have listed : pair ∈ pairs := by simp [shape]
  obtain ⟨_, _, v, spells', value⟩ := exists_spells read listed
  obtain ⟨rfl, rfl⟩ := spells.unique spells'
  exact ⟨v, value, (get?_ofPairs read name v).2 ⟨front, pair, back, raw, shape, spells, value, last⟩⟩

theorem get?_eq_none_of_unspelled (read : ofPairs pairs = .ok b)
    (unspelled : ∀ pair ∈ pairs, ∀ raw, ¬Spells pair name raw) :
  b.get? name = none
  := by
  rw [Option.eq_none_iff_forall_ne_some]
  intro v found
  obtain ⟨front, pair, back, raw, rfl, spells, -⟩ := (get?_ofPairs read name v).1 found
  exact unspelled pair (by simp) raw spells

/-- The pairs do not spell the same name. -/
def Apart (pair other : String) : Prop :=
  ∀ name raw raw', Spells pair name raw → ¬Spells other name raw'

instance : Std.Symm Apart where
  symm _ _ apart name raw raw' spells spells' := apart name raw' raw spells' spells

/-- If no two pairs spell the same name, they may be given in any order. -/
theorem agree_of_perm (apart : pairs.Pairwise Apart) (order : pairs.Perm others) :
  Agree (ofPairs pairs) (ofPairs others)
  := by
  simp only [ofPairs, addPairs_eq]
  apply agree_addReadings
  · intro reading
    exact (order.map readPair).mem_iff
  · intro name v w first second
    obtain ⟨pair, mem, value⟩ := List.mem_map.1 first
    obtain ⟨pair', mem', value'⟩ := List.mem_map.1 second
    obtain ⟨raw, spells, -⟩ := readPair_eq_ok_iff.1 value
    obtain ⟨raw', spells', -⟩ := readPair_eq_ok_iff.1 value'
    by_cases same : pair = pair'
    · subst same
      exact (Prod.mk.inj (Except.ok.inj (value.symm.trans value'))).2
    · exact absurd spells' (apart.forall mem mem' same name raw raw' spells)

/-- **Lists of pairs are read pair by pair.**  Two lists one after the other are refused as the first
of them that is refused, or else give the bindings of both, merged.  In the bindings of a list a
name has the value of the last pair that spells it, if there is one.  Another order of pairs whose
names differ makes no difference. -/
theorem pairs_decided (pairs : List String) :
  (∀ others, ofPairs (pairs ++ others) = do
      let b ← ofPairs pairs
      let c ← ofPairs others
      return b.merge c)
    ∧ (∀ b, ofPairs pairs = .ok b → ∀ name,
        (∀ front pair back raw, pairs = front ++ pair :: back → Spells pair name raw →
          (∀ later ∈ back, ∀ other, ¬Spells later name other) →
            ∃ v, readRaw name raw = .ok v ∧ b.get? name = some v)
        ∧ ((∀ pair ∈ pairs, ∀ raw, ¬Spells pair name raw) → b.get? name = none))
    ∧ ∀ others, pairs.Perm others → pairs.Pairwise Apart → Agree (ofPairs pairs) (ofPairs others)
  := by
  refine ⟨ofPairs_append pairs, ?_, ?_⟩
  · intro b read name
    constructor
    · intro front pair back raw shape spells last
      exact exists_get?_of_last read shape spells last
    · exact get?_eq_none_of_unspelled read
  · intro others order apart
    exact agree_of_perm apart order

/-- Pairs that spell a name twice, once with blanks around it and an equals sign in the raw text. -/
theorem pairs_decided_respelled :
  (∃ b, ofPairs ["RUN=a", "GBSIZE=64", "\u3000RUN\t= b=c"] = .ok b
      ∧ b.get? "RUN" = some (.text " b=c") ∧ b.get? "LABEL" = none)
    ∧ Agree (ofPairs ["RUN=a", "GBSIZE=64"]) (ofPairs ["GBSIZE=64", "RUN=a"])
  := by
  have first : Spells "RUN=a" "RUN" "a" := spells_of_splitPair (by decide)
  have second : Spells "GBSIZE=64" "GBSIZE" "64" := spells_of_splitPair (by decide)
  have third : Spells "\u3000RUN\t= b=c" "RUN" " b=c" := spells_of_splitPair (by decide)
  have made : ofPairs ["RUN=a", "GBSIZE=64", "\u3000RUN\t= b=c"]
      = .ok ⟨.ofList [("GBSIZE", .number (.integer 64 (by decide))), ("RUN", .text " b=c")]⟩ := by
    decide +kernel
  constructor
  · obtain ⟨-, values, -⟩ := pairs_decided ["RUN=a", "GBSIZE=64", "\u3000RUN\t= b=c"]
    refine ⟨_, made, ?_, ?_⟩
    · obtain ⟨v, read, found⟩ := (values _ made "RUN").1 ["RUN=a", "GBSIZE=64"] _ [] " b=c" rfl
        third (List.forall_mem_nil _)
      obtain rfl : Scalar.text " b=c" = v := Except.ok.inj read
      exact found
    · apply (values _ made "LABEL").2
      simp only [List.forall_mem_cons]
      refine ⟨?_, ?_, ?_, List.forall_mem_nil _⟩
      · intro raw spells
        exact absurd (first.unique spells).1 (by decide)
      · intro raw spells
        exact absurd (second.unique spells).1 (by decide)
      · intro raw spells
        exact absurd (third.unique spells).1 (by decide)
  · obtain ⟨-, -, reordered⟩ := pairs_decided ["RUN=a", "GBSIZE=64"]
    apply reordered _ (by decide)
    rw [List.pairwise_pair]
    intro name raw raw' spells spells'
    obtain ⟨rfl, -⟩ := first.unique spells
    exact absurd (second.unique spells').1 (by decide)

end ConfigTemplate.Bindings
