import ConfigTemplate.Bindings.Sources
import ConfigTemplate.Proofs.Dictionary
import ConfigTemplate.Proofs.Text.ByteOrder
import Mathlib.Data.List.Induction

/-!
# Histories of bindings

Bindings are changed in place, step by step, and a step may be refused on the way.  After any steps
a name has the value of the last step that wrote one, unless a later step has taken it out; a step
that is refused has left everything as it was.  The names are listed in the order of their bytes,
and merging is associative, with no bindings as its unit: `history_decided`.
-/

namespace ConfigTemplate

open Bindings

/-- A step that changes bindings.  What it merges is made apart from them, in whatever way, and may
have been refused. -/
inductive Change where
  | set (name : String) (v : Scalar)
  | setRaw (name raw : String)
  | setJson (name : String) (value : Json.Value)
  | erase (name : String)
  | merge (made : Except Error Bindings)

/-- An operation on bindings in place: what it has done before it is refused stays done. -/
abbrev InPlace := ExceptT Error (StateM Bindings)

/-- Binds a name in place to what it becomes, unless that is refused. -/
def InPlace.write (name : String) (becomes : Except Error Scalar) : InPlace Unit := do
  let v ← ofExcept becomes
  modify (·.insert name v)

namespace Change

/-- The bindings with the change, unless it is refused. -/
def apply (b : Bindings) : Change → Except Error Bindings
  | .set name v => b.set name v
  | .setRaw name raw => b.setRaw name raw
  | .setJson name value => b.setJson name value
  | .erase name => .ok (b.erase name)
  | .merge made => made.map b.merge

/-- The change as it is made in place. -/
def perform : Change → InPlace Unit
  | .set name v => .write name (checked name v)
  | .setRaw name raw => .write name (readRaw name raw)
  | .setJson name value => .write name (readJson name value)
  | .erase name => modify (·.erase name)
  | .merge made => do
    let other ← ofExcept made
    modify (·.merge other)

/-- The bindings as the change leaves them, be it refused or not. -/
def after (b : Bindings) (change : Change) : Bindings := (change.perform.run.run b).2

/-- The bindings after changes that start without any. -/
def history (changes : List Change) : Bindings := changes.foldl after empty

/-- The change is not refused and gives the name a value. -/
inductive Writes : Change → String → Scalar → Prop where
  | set {name : String} {v : Scalar} (passes : checked name v = .ok v) : Writes (.set name v) name v
  | setRaw {name raw : String} {v : Scalar} (read : readRaw name raw = .ok v) :
    Writes (.setRaw name raw) name v
  | setJson {name : String} {value : Json.Value} {v : Scalar}
    (read : readJson name value = .ok v) : Writes (.setJson name value) name v
  | merge {made : Bindings} {name : String} {v : Scalar} (held : made.get? name = some v) :
    Writes (.merge (.ok made)) name v

/-- The change gives the name a value or takes it out. -/
def Touches (change : Change) (name : String) : Prop :=
  (∃ v, change.Writes name v) ∨ change = .erase name

/-! ### One change -/

variable {b : Bindings} {name : String} {v : Scalar}

/-- A change that is not refused is made, and one that is refused leaves the bindings alone. -/
theorem after_eq (b : Bindings) (change : Change) :
  after b change = (change.apply b).toOption.getD b
  := by
  have write (name : String) (becomes : Except Error Scalar) :
      ((InPlace.write name becomes).run.run b).2
        = (becomes.map (b.insert name)).toOption.getD b := by
    cases becomes with
    | error e => rfl
    | ok v => rfl
  cases change with
  | set name v => exact write name (checked name v)
  | setRaw name raw => exact write name (readRaw name raw)
  | setJson name value => exact write name (readJson name value)
  | erase name => rfl
  | merge made =>
    cases made with
    | error e => rfl
    | ok other => rfl

theorem eq_of_checked {w : Scalar} (passes : checked name v = .ok w) :
  w = v
  := by
  unfold checked at passes
  split at passes
  · next entry _ =>
    cases checks : entry.domain.check name v with
    | error e =>
      rw [checks] at passes
      contradiction
    | ok _ =>
      rw [checks] at passes
      exact (Except.ok.inj passes).symm
  · exact (Except.ok.inj passes).symm

theorem writes_set_iff {other : String} {w : Scalar} :
  (Change.set other w).Writes name v ↔ name = other ∧ checked other w = .ok v
  := by
  constructor
  · rintro ⟨passes⟩
    exact ⟨rfl, passes⟩
  · rintro ⟨rfl, passes⟩
    obtain rfl := eq_of_checked passes
    exact .set passes

theorem writes_setRaw_iff {other raw : String} :
  (Change.setRaw other raw).Writes name v ↔ name = other ∧ readRaw other raw = .ok v
  := by
  constructor
  · rintro ⟨⟩
    next read => exact ⟨rfl, read⟩
  · rintro ⟨rfl, read⟩
    exact .setRaw read

theorem writes_setJson_iff {other : String} {value : Json.Value} :
  (Change.setJson other value).Writes name v ↔ name = other ∧ readJson other value = .ok v
  := by
  constructor
  · rintro ⟨⟩
    next read => exact ⟨rfl, read⟩
  · rintro ⟨rfl, read⟩
    exact .setJson read

theorem writes_merge_iff {made : Except Error Bindings} :
  (Change.merge made).Writes name v ↔ ∃ other, made = .ok other ∧ other.get? name = some v
  := by
  constructor
  · rintro ⟨⟩
    next held => exact ⟨_, rfl, held⟩
  · rintro ⟨other, rfl, held⟩
    exact .merge held

theorem not_writes_erase {other : String} :
  ¬(Change.erase other).Writes name v
  := nofun

/-- What a change to a single name does to the names, if it is not to take one out. -/
theorem get?_after_of_writes {change : Change} {other : String} {becomes : Except Error Scalar}
    (applied : change.apply b = becomes.map (b.insert other))
    (writes : ∀ {name v}, change.Writes name v ↔ name = other ∧ becomes = .ok v)
    (keeps : change ≠ .erase name) :
  (after b change).get? name = some v
    ↔ change.Writes name v ∨ ¬change.Touches name ∧ b.get? name = some v
  := by
  rw [after_eq, applied]
  cases becomes with
  | error e => simp [Touches, writes, keeps, Except.map, Except.toOption]
  | ok w =>
    have held : (b.insert other w).get? name = if name = other then some w else b.get? name :=
      b.values.get?_insert other w name
    change (b.insert other w).get? name = some v ↔ _
    rw [held, writes, Except.ok.injEq]
    by_cases same : name = other
    · simp [Touches, writes, same]
    · simp [Touches, writes, keeps, same]

/-- A change to a name writes a value or takes it out, and it leaves the other names alone. -/
theorem get?_after (change : Change) :
  (after b change).get? name = some v
    ↔ change.Writes name v ∨ ¬change.Touches name ∧ b.get? name = some v
  := by
  cases change with
  | set other w => exact get?_after_of_writes rfl writes_set_iff nofun
  | setRaw other raw => exact get?_after_of_writes rfl writes_setRaw_iff nofun
  | setJson other value => exact get?_after_of_writes rfl writes_setJson_iff nofun
  | erase other =>
    have held : (after b (.erase other)).get? name = if name = other then none else b.get? name :=
      b.values.get?_erase other name
    rw [held]
    by_cases same : name = other
    · simp [Touches, not_writes_erase, same]
    · simp [Touches, not_writes_erase, same, Ne.symm same]
  | merge made =>
    cases made with
    | error e => simp [after_eq, apply, Touches, writes_merge_iff, Except.map, Except.toOption]
    | ok other =>
      have held : (after b (.merge (.ok other))).get? name = (other.get? name).or (b.get? name) :=
        b.values.get?_merge other.values name
      rw [held]
      cases found : other.get? name with
      | none => simp [Touches, writes_merge_iff, found]
      | some w => simp [Touches, writes_merge_iff, found]

/-! ### Any changes -/

theorem history_concat (changes : List Change) (change : Change) :
  history (changes ++ [change]) = after (history changes) change
  := List.foldl_concat ..

/-- The last step that wrote a name decides about it, unless a later one has taken it out. -/
theorem get?_history (changes : List Change) (name : String) (v : Scalar) :
  (history changes).get? name = some v
    ↔ ∃ front last back, changes = front ++ last :: back ∧ last.Writes name v
      ∧ ∀ later ∈ back, ¬later.Touches name
  := by
  induction changes using List.reverseRecOn with
  | nil => simp [history, empty, get?, Dictionary.get?, Dictionary.empty]
  | append_singleton changes change ih =>
    rw [history_concat, get?_after, ih]
    constructor
    · rintro (writes | ⟨untouched, front, last, back, rfl, writes, kept⟩)
      · exact ⟨changes, change, [], rfl, writes, List.forall_mem_nil _⟩
      · refine ⟨front, last, back ++ [change], by simp, writes, ?_⟩
        exact List.forall_mem_append.2 ⟨kept, List.forall_mem_singleton.2 untouched⟩
    · rintro ⟨front, last, back, split, writes, kept⟩
      -- the change is the last step of all, so it is the deciding one or it came later
      rcases List.eq_nil_or_concat back with rfl | ⟨earlier, later, rfl⟩
      · obtain ⟨-, same⟩ := List.append_inj' split rfl
        obtain rfl := List.singleton_inj.1 same
        exact .inl writes
      · rw [List.concat_eq_append] at split kept
        rw [← List.cons_append, ← List.append_assoc] at split
        obtain ⟨rfl, same⟩ := List.append_inj' split rfl
        obtain rfl := List.singleton_inj.1 same
        obtain ⟨keptEarlier, keptLast⟩ := List.forall_mem_append.1 kept
        exact .inr ⟨keptLast change (by simp), front, last, earlier, rfl, writes, keptEarlier⟩

end Change

namespace Bindings

theorem eq_of_get? {b c : Bindings} (same : ∀ name, b.get? name = c.get? name) :
  b = c
  := congrArg Bindings.mk (Dictionary.eq_of_get? same)

theorem get?_merge (b c : Bindings) (name : String) :
  (b.merge c).get? name = (c.get? name).or (b.get? name)
  := b.values.get?_merge c.values name

theorem merge_assoc (b c d : Bindings) :
  (b.merge c).merge d = b.merge (c.merge d)
  := by
  apply eq_of_get?
  intro name
  simp only [get?_merge, Option.or_assoc]

theorem merge_empty (b : Bindings) :
  b.merge empty = b
  := rfl

theorem empty_merge (b : Bindings) :
  empty.merge b = b
  := by
  apply eq_of_get?
  intro name
  rw [get?_merge]
  exact Option.or_none

theorem names_pairwise_bytes (b : Bindings) :
  b.names.Pairwise fun name other => utf8Bytes name < utf8Bytes other
  := b.values.names_sorted.imp utf8Bytes_lt

theorem mem_names_iff (b : Bindings) (name : String) :
  name ∈ b.names ↔ ∃ v, b.get? name = some v
  := by
  rw [names, ← Dictionary.contains_iff, Dictionary.contains, Option.isSome_iff_exists]
  rfl

end Bindings

namespace Change

/-- **Bindings keep what was written last.**  After any steps a name has the value of the last step
that wrote it, unless a later one took it out.  A step that is not refused is made, and one that is
refused leaves the bindings as they were.  The names with a value are listed without repetition in
the order of their bytes and counted; and merging is associative, with no bindings as its unit. -/
theorem history_decided (changes : List Change) :
  (∀ name v, (history changes).get? name = some v
      ↔ ∃ front last back, changes = front ++ last :: back ∧ last.Writes name v
        ∧ ∀ later ∈ back, ¬later.Touches name)
    ∧ (∀ change b, change.apply (history changes) = .ok b → history (changes ++ [change]) = b)
    ∧ (∀ change e, change.apply (history changes) = .error e →
        history (changes ++ [change]) = history changes)
    ∧ (history changes).names.Nodup
    ∧ ((history changes).names.Pairwise fun name other => utf8Bytes name < utf8Bytes other)
    ∧ (∀ name, name ∈ (history changes).names ↔ ∃ v, (history changes).get? name = some v)
    ∧ (history changes).size = (history changes).names.length
    ∧ (∀ b c d : Bindings, (b.merge c).merge d = b.merge (c.merge d))
    ∧ ∀ b : Bindings, b.merge empty = b ∧ empty.merge b = b
  := by
  have made (change : Change) (b : Bindings) (applied : change.apply (history changes) = .ok b) :
      history (changes ++ [change]) = b := by
    rw [history_concat, after_eq, applied]
    rfl
  have refused (change : Change) (e : Error)
      (applied : change.apply (history changes) = .error e) :
      history (changes ++ [change]) = history changes := by
    rw [history_concat, after_eq, applied]
    rfl
  have counted : (history changes).size = (history changes).names.length :=
    (List.length_map _).symm
  exact ⟨get?_history changes, made, refused, (history changes).values.sorted.nodup,
    names_pairwise_bytes _, mem_names_iff _, counted, merge_assoc,
    fun b => ⟨merge_empty b, empty_merge b⟩⟩

/-- The second value is refused, and so are the pairs, after the first of them was read. -/
example :
  (history [.setRaw "GBSIZE" "64", .setRaw "GBSIZE" "many", .setRaw "RUN" "a",
      .merge (ofPairs ["RUN=b", "GBSIZE=0"]), .setRaw "LABEL" "c", .erase "LABEL"]).toList
    = [("GBSIZE", .number (.integer 64 (by decide))), ("RUN", .text "a")]
  := by
  decide +kernel

end Change

end ConfigTemplate
