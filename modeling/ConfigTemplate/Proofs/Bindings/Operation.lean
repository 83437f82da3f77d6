import ConfigTemplate.Proofs.Bindings.Admitted
import ConfigTemplate.Proofs.Bindings.Readings

/-!
# Operations on bindings

Bindings come about by operations, each of which may be refused.  Whatever way a value takes into
the bindings, it passes the check of its domain on the way, so a documented placeholder never has a
value outside its domain.  That holds after every step, and hence after any operations that start
without bindings.
-/

namespace ConfigTemplate.Bindings

/-- What bindings are made from in one go. -/
inductive Source where
  | pairs (list : List String)
  | json (text : String)
  | lookup (names : List String) (value? : String → Option String)
  | settings (list : List Setting)

/-- The bindings of a source. -/
def Source.bindings : Source → Except Error Bindings
  | .pairs list => ofPairs list
  | .json text => ofJsonText text
  | .lookup names value? => ofVariables names value?
  | .settings list => build list

/-- One operation on bindings. -/
inductive Operation where
  | set (name : String) (v : Scalar)
  | setRaw (name raw : String)
  | setJson (name : String) (value : Json.Value)
  | erase (name : String)
  /-- Adds what other operations make of no bindings. -/
  | merge (others : List Operation)
  /-- Takes the bindings of a source instead. -/
  | load (source : Source)

mutual

/-- The bindings after an operation, unless it is refused. -/
def apply (b : Bindings) : Operation → Except Error Bindings
  | .set name v => b.set name v
  | .setRaw name raw => b.setRaw name raw
  | .setJson name value => b.setJson name value
  | .erase name => .ok (b.erase name)
  | .merge others => .ok (b.merge (run empty others))
  | .load source => source.bindings
termination_by structural operation => operation

/-- The bindings after operations; one that is refused leaves them as they are. -/
def run (b : Bindings) : List Operation → Bindings
  | [] => b
  | operation :: rest => run ((b.apply operation).toOption.getD b) rest
termination_by structural operations => operations

end

/-! ### Values on their way into bindings -/

/-- The value passes the check of its domain, if the name is documented. -/
def Passes (name : String) (v : Scalar) : Prop :=
  ∀ entry, documented? name = some entry → entry.domain.check name v = .ok ()

theorem passes_of_checked {name : String} {v w : Scalar} (h : checked name v = .ok w) :
  Passes name w
  := by
  intro entry documented
  rw [checked, documented] at h
  obtain ⟨checked, rfl⟩ := Domain.map_check_eq_ok_iff.1 h
  exact checked

theorem passes_of_readRaw {name raw : String} {v : Scalar} (h : readRaw name raw = .ok v) :
  Passes name v
  := by
  intro entry documented
  rw [readRaw, documented] at h
  exact Domain.check_of_parse h

theorem passes_of_readJson {name : String} {value : Json.Value} {v : Scalar}
    (h : readJson name value = .ok v) :
  Passes name v
  := by
  intro entry documented
  unfold readJson at h
  rw [documented] at h
  exact Domain.check_of_accept h

/-! ### Bindings that keep to the domains -/

/-- The value of each documented placeholder passes the check of its domain. -/
def InDomain (b : Bindings) : Prop :=
  ∀ entry ∈ catalog, ∀ v, b.get? entry.name = some v → entry.domain.check entry.name v = .ok ()

/-- The names of the catalog are different from each other. -/
theorem documented?_name :
  ∀ entry ∈ catalog, documented? entry.name = some entry
  := by
  decide

theorem inDomain_empty :
  empty.InDomain
  := by
  intro entry _ v bound
  contradiction

namespace InDomain

variable {b c : Bindings}

theorem insert (h : b.InDomain) {name : String} {v : Scalar} (passes : Passes name v) :
  (b.insert name v).InDomain
  := by
  intro entry mem w bound
  rw [get?, Bindings.insert, Dictionary.get?_insert] at bound
  split at bound
  · next same =>
    obtain rfl := Option.some.inj bound
    rw [← same] at passes
    exact passes entry (documented?_name entry mem)
  · exact h entry mem w bound

theorem erase (h : b.InDomain) (name : String) :
  (b.erase name).InDomain
  := by
  intro entry mem v bound
  rw [get?, Bindings.erase, Dictionary.get?_erase] at bound
  split at bound
  · contradiction
  · exact h entry mem v bound

theorem merge (h : b.InDomain) (h' : c.InDomain) :
  (b.merge c).InDomain
  := by
  intro entry mem v bound
  rw [get?, Bindings.merge, Dictionary.get?_merge, Option.or_eq_some_iff] at bound
  rcases bound with second | ⟨-, first⟩
  · exact h' entry mem v second
  · exact h entry mem v first

/-- A value that is read before it is bound passes if the reading lets only such values through. -/
theorem map_insert (h : b.InDomain) {name : String} {result : Except Error Scalar} {b' : Bindings}
    (passes : ∀ v, result = .ok v → Passes name v) (bound : result.map (b.insert name) = .ok b') :
  b'.InDomain
  := by
  cases result with
  | error e => contradiction
  | ok v =>
    obtain rfl := Except.ok.inj bound
    exact h.insert (passes v rfl)

theorem set (h : b.InDomain) {name : String} {v : Scalar} {b' : Bindings}
    (bound : b.set name v = .ok b') :
  b'.InDomain
  := h.map_insert (fun _ => passes_of_checked) bound

theorem setRaw (h : b.InDomain) {name raw : String} {b' : Bindings}
    (bound : b.setRaw name raw = .ok b') :
  b'.InDomain
  := h.map_insert (fun _ => passes_of_readRaw) bound

theorem setJson (h : b.InDomain) {name : String} {value : Json.Value} {b' : Bindings}
    (bound : b.setJson name value = .ok b') :
  b'.InDomain
  := h.map_insert (fun _ => passes_of_readJson) bound

/-! ### Sources -/

/-- Readings keep to the domains if the values of all that are not refused do. -/
theorem addReadings (h : b.InDomain) {readings : List Reading} {b' : Bindings}
    (passes : ∀ name v, .ok (name, v) ∈ readings → Passes name v)
    (added : b.addReadings readings = .ok b') :
  b'.InDomain
  := by
  induction readings generalizing b with
  | nil =>
    obtain rfl := Except.ok.inj added
    exact h
  | cons reading rest ih =>
    cases reading with
    | error e => contradiction
    | ok entry =>
      have inserted := h.insert (passes entry.1 entry.2 List.mem_cons_self)
      exact ih inserted (fun name v mem => passes name v (List.mem_cons_of_mem _ mem)) added

end InDomain

/-- Every source keeps to the domains. -/
theorem inDomain_source {source : Source} {b : Bindings} (made : source.bindings = .ok b) :
  b.InDomain
  := by
  cases source with
  | pairs list =>
    rw [Source.bindings, ofPairs, addPairs_eq] at made
    refine inDomain_empty.addReadings ?_ made
    intro name v mem
    obtain ⟨pair, -, read⟩ := List.mem_map.1 mem
    obtain ⟨raw, -, value⟩ := readPair_eq_ok_iff.1 read
    exact passes_of_readRaw value
  | lookup names value? =>
    rw [Source.bindings, ofVariables, addVariables_eq] at made
    refine inDomain_empty.addReadings ?_ made
    intro name v mem
    obtain ⟨asked, -, found⟩ := List.mem_filterMap.1 mem
    obtain ⟨raw, -, read⟩ := Option.map_eq_some_iff.1 found
    obtain ⟨rfl, value⟩ := readNamed_eq_ok_iff.1 read
    exact passes_of_readRaw value
  | settings list =>
    rw [Source.bindings, build, addEntries_eq] at made
    refine inDomain_empty.addReadings ?_ made
    intro name v mem
    obtain ⟨typed, -, read⟩ := List.mem_map.1 mem
    obtain ⟨rfl, value⟩ := readTyped_eq_ok_iff.1 read
    exact passes_of_checked value
  | json text =>
    simp only [Source.bindings, ofJsonText] at made
    split at made
    · contradiction
    · rw [addMembers_eq] at made
      refine inDomain_empty.addReadings ?_ made
      intro name v mem
      obtain ⟨member, -, read⟩ := List.mem_map.1 mem
      obtain ⟨rfl, value⟩ := readMember_eq_ok_iff.1 read
      exact passes_of_readJson value
    · contradiction

/-! ### Operations one after the other -/

mutual

/-- An operation that is not refused keeps to the domains. -/
theorem inDomain_apply {b : Bindings} (h : b.InDomain) :
    ∀ (operation : Operation) {b' : Bindings}, b.apply operation = .ok b' → b'.InDomain
  | .set _ _, _, applied => h.set applied
  | .setRaw _ _, _, applied => h.setRaw applied
  | .setJson _ _, _, applied => h.setJson applied
  | .erase name, _, applied => by
    obtain rfl := Except.ok.inj applied
    exact h.erase name
  | .merge others, _, applied => by
    obtain rfl := Except.ok.inj applied
    exact h.merge (inDomain_run inDomain_empty others)
  | .load _, _, applied => inDomain_source applied

/-- Operations keep to the domains, whether they are refused or not. -/
theorem inDomain_run {b : Bindings} (h : b.InDomain) :
    ∀ operations : List Operation, (b.run operations).InDomain
  | [] => h
  | operation :: rest => by
    rw [run]
    cases applied : b.apply operation with
    | error e => exact inDomain_run h rest
    | ok b' => exact inDomain_run (inDomain_apply h operation applied) rest

end

/-- **Domains of stored values.**  After any operations, some of which may have been refused, each
entry whose name is documented passes the check of its domain. -/
theorem check_of_mem_run (operations : List Operation) :
  ∀ entry ∈ catalog, ∀ v, (entry.name, v) ∈ (empty.run operations).toList →
    entry.domain.check entry.name v = .ok ()
  := by
  intro entry mem v stored
  apply inDomain_run inDomain_empty operations entry mem v
  exact (empty.run operations).values.sorted.lookup_eq_some_iff.2 stored

/-- A stage that is refused, a batch size in free text, and over it one that comes with a merge. -/
def batchOperations : List Operation := [
  .set "ZERO_STAGE" (.number (.closest 7)), .setRaw "GBSIZE" " 256 ",
  .setJson "MBSIZE" (.string "4"),
  .merge [.load (.pairs ["GBSIZE=1024", "NAME=a=b"]), .setRaw "GBSIZE" "-1", .erase "NAME"]]

theorem check_of_mem_run_batchOperations :
  ("GBSIZE", .number (.closest 1024)) ∈ (empty.run batchOperations).toList
    ∧ Domain.positiveInteger.check "GBSIZE" (.number (.closest 1024)) = .ok ()
  := by
  have stored : ("GBSIZE", .number (.closest 1024)) ∈ (empty.run batchOperations).toList := by
    decide +kernel
  refine ⟨stored, ?_⟩
  exact check_of_mem_run batchOperations
    ⟨"GBSIZE", .positiveInteger, "global batch size across all workers"⟩ (by decide) _ stored

end ConfigTemplate.Bindings
