import ConfigTemplate.Json.Document
import ConfigTemplate.Proofs.Json.CanonicalValue
import ConfigTemplate.Proofs.Json.Literal
import ConfigTemplate.Proofs.Json.NumeralText

/-!
# Values as they are laid out

The value of a document has the members of its objects sorted.  As it is laid out, a document has
them in the order of the text, with all repetitions.  Its value is the sorted one of that.  The same
is true of an outline.
-/

namespace ConfigTemplate.Json

/-! ### Documents -/

namespace Node

mutual

/-- The value of a part with all members in the order of the text, or the first fault in it. -/
def laidOut : Node → Except Fault Value
  | .leaf value _ _ => .ok value.toValue
  | .array _ _ items => (laidOutItems items).map .array
  | .object _ _ members => (laidOutMembers members).map .object
  | .absent place => .error ⟨.endInValue, place⟩
  | .broken _ fault => .error fault
termination_by structural node => node

/-- The values of the items. -/
def laidOutItems : Items → Except Fault (List Value)
  | .closed _ => .ok []
  | .broken fault => .error fault
  | .cons head tail => do
    let value ← head.laidOut
    let values ← laidOutItems tail
    return value :: values
termination_by structural items => items

/-- The keys and values of the members. -/
def laidOutMembers : Members → Except Fault (List (String × Value))
  | .closed _ => .ok []
  | .broken fault => .error fault
  | .cons key _ value tail => do
    let value ← value.laidOut
    let members ← laidOutMembers tail
    return (key, value) :: members
termination_by structural members => members

end

theorem laidOutItems_cons {head : Node} {tail : Items} {value : Value} {values : List Value}
    (first : head.laidOut = .ok value) (later : laidOutItems tail = .ok values) :
  laidOutItems (.cons head tail) = .ok (value :: values)
  := by
  rw [laidOutItems, first, later]
  rfl

theorem laidOutMembers_cons {key : String} {places : MemberPlaces} {node : Node} {tail : Members}
    {value : Value} {entries : List (String × Value)} (first : node.laidOut = .ok value)
    (later : laidOutMembers tail = .ok entries) :
  laidOutMembers (.cons key places node tail) = .ok ((key, value) :: entries)
  := by
  rw [laidOutMembers, first, later]
  rfl

mutual

/-- The value of a part is the sorted one of what is laid out. -/
theorem toValue_of_laidOut :
    ∀ {node : Node} {value : Value}, node.laidOut = .ok value → node.toValue = .ok value.sorted
  | .leaf l _ _, value, h => by
    obtain rfl := Except.ok.inj h
    cases l <;> rfl
  | .array _ _ items, value, h => by
    obtain ⟨values, parts, rfl⟩ := map_eq_ok h
    rw [toValue, itemValues_of_laidOut parts]
    rfl
  | .object _ _ members, value, h => by
    obtain ⟨entries, parts, rfl⟩ := map_eq_ok h
    rw [toValue, memberValues_of_laidOut parts]
    rfl
  | .absent _, _, h => by simp [laidOut] at h
  | .broken _ _, _, h => by simp [laidOut] at h

theorem itemValues_of_laidOut :
    ∀ {items : Items} {values : List Value}, laidOutItems items = .ok values →
      itemValues items = .ok (Value.sortedItems values)
  | .closed _, values, h => by
    obtain rfl := Except.ok.inj h
    rfl
  | .broken _, _, h => by simp [laidOutItems] at h
  | .cons head tail, values, h => by
    obtain ⟨value, first, h⟩ := bind_eq_ok h
    obtain ⟨rest, later, h⟩ := bind_eq_ok h
    obtain rfl := Except.ok.inj h
    rw [itemValues, toValue_of_laidOut first, itemValues_of_laidOut later]
    rfl

theorem memberValues_of_laidOut :
    ∀ {members : Members} {entries : List (String × Value)}, laidOutMembers members = .ok entries →
      memberValues members = .ok (Value.sortedMembers entries)
  | .closed _, entries, h => by
    obtain rfl := Except.ok.inj h
    rfl
  | .broken _, _, h => by simp [laidOutMembers] at h
  | .cons key _ node tail, entries, h => by
    obtain ⟨value, first, h⟩ := bind_eq_ok h
    obtain ⟨rest, later, h⟩ := bind_eq_ok h
    obtain rfl := Except.ok.inj h
    rw [memberValues, toValue_of_laidOut first, memberValues_of_laidOut later]
    rfl

end

/-- The members of an object have the names that are laid out, and each of them has a value. -/
theorem members_of_laidOut :
    ∀ {members : Members} {entries : List (String × Value)},
      laidOutMembers members = .ok entries →
      members.split.1.map Member.key = entries.map Prod.fst
        ∧ ∀ m ∈ members.split.1, ∃ entry ∈ entries, m.value.laidOut = .ok entry.2
  | .closed _, entries, h => by
    obtain rfl := Except.ok.inj h
    exact ⟨rfl, nofun⟩
  | .broken _, _, h => by simp [laidOutMembers] at h
  | .cons key places node tail, entries, h => by
    obtain ⟨value, first, h⟩ := bind_eq_ok h
    obtain ⟨rest, later, h⟩ := bind_eq_ok h
    obtain rfl := Except.ok.inj h
    obtain ⟨names, each⟩ := members_of_laidOut later
    rw [Members.split, List.map_cons, List.map_cons, names, List.forall_mem_cons]
    refine ⟨rfl, ⟨_, List.mem_cons_self, first⟩, ?_⟩
    intro m mem
    obtain ⟨entry, found, laidOut⟩ := each m mem
    exact ⟨entry, List.mem_cons_of_mem _ found, laidOut⟩

end Node

/-! ### Outlines -/

namespace Outline

mutual

/-- The value of an outline with all members in the order of the text. -/
def laidOut : Outline Literal → Value
  | .leaf l => l.value
  | .emptyArray _ => .array []
  | .array items => .array items.laidOut
  | .emptyObject _ => .object []
  | .object members => .object members.laidOut

/-- The values of the items. -/
def Items.laidOut : Items Literal → List Value
  | .last _ value _ => [value.laidOut]
  | .cons _ value _ rest => value.laidOut :: rest.laidOut

/-- The keys and values of the members. -/
def Members.laidOut : Members Literal → List (String × Value)
  | .last label value _ => [(pieceText label.key, value.laidOut)]
  | .cons label value _ rest => (pieceText label.key, value.laidOut) :: rest.laidOut

end

mutual

/-- The value of an outline is the sorted one of what is laid out. -/
theorem sorted_laidOut : ∀ t : Outline Literal, t.laidOut.sorted = t.literalValue
  | .leaf .null | .leaf (.boolean _) | .leaf (.number _) | .leaf (.string _) => rfl
  | .emptyArray _ => rfl
  | .array items => congrArg Value.array items.sorted_laidOut
  | .emptyObject _ => rfl
  | .object members => congrArg (Value.object ∘ sortEntries) members.sorted_laidOut

theorem Items.sorted_laidOut :
    ∀ items : Items Literal,
      Value.sortedItems items.laidOut = items.values Literal.value pieceText
  | .last _ value _ => congrArg (fun v => [v]) value.sorted_laidOut
  | .cons _ value _ rest => congrArg₂ List.cons value.sorted_laidOut rest.sorted_laidOut

theorem Members.sorted_laidOut :
    ∀ members : Members Literal,
      Value.sortedMembers members.laidOut = members.entries Literal.value pieceText
  | .last label value _ => congrArg (fun v => [(pieceText label.key, v)]) value.sorted_laidOut
  | .cons label value _ rest =>
    congrArg₂ List.cons (congrArg (Prod.mk (pieceText label.key)) value.sorted_laidOut)
      rest.sorted_laidOut

end

theorem Items.exists_cons_laidOut (items : Items Literal) :
  ∃ value values, items.laidOut = value :: values
  := by
  cases items with
  | last => exact ⟨_, _, rfl⟩
  | cons => exact ⟨_, _, rfl⟩

theorem Members.exists_cons_laidOut (members : Members Literal) :
  ∃ entry entries, members.laidOut = entry :: entries
  := by
  cases members with
  | last => exact ⟨_, _, rfl⟩
  | cons => exact ⟨_, _, rfl⟩

end Outline

end ConfigTemplate.Json
