import ConfigTemplate.Json.Fault
import ConfigTemplate.Json.Value

/-!
# Documents

A document is a JSON text taken apart but not yet judged.  Every part keeps the places at which a
reader notices that it wanted something else, and where the text stops being JSON the tree is
broken off with the fault found there.  A reader walks the tree in the order of the text, so of a
wrong type and a broken text the one that comes first is reported.  What follows a member whose
value is broken is for readers that skip the value; all others stop at it.  A value is a document
without places.
-/

namespace ConfigTemplate.Json

/-- A value without parts. -/
inductive Leaf where
  | null
  | boolean (b : Bool)
  | number (n : Number)
  | string (s : String)
deriving DecidableEq

/-- The value that a leaf stands for. -/
def Leaf.toValue : Leaf → Value
  | .null => .null
  | .boolean b => .boolean b
  | .number n => .number n
  | .string s => .string s

/-- A leaf as it is described to someone who expected something else. -/
def Leaf.found : Leaf → Found
  | .null => .null
  | .boolean b => .boolean b
  | .number (.integer value _) => .integer value
  | .number (.float value) => .float value
  | .string s => .string s

/-- Where a reader stands at a member of an object. -/
structure MemberPlaces where
  /-- At the end of the key. -/
  keyEnd : Place
  /-- At the key, if it refuses the key and leaves the object. -/
  refused : Place
  /-- Behind the value and the blank characters after it. -/
  next : Place

/-- A member without places. -/
def MemberPlaces.nowhere : MemberPlaces := ⟨none, none, none⟩

mutual

/-- A part of a document.  It is absent if the text ends where the part should start, and broken
if the text is no JSON inside it.  `start` is the place of its first byte and `after` that of its
end.  In front of a bracket that is refused unread the reader is one byte before `start`; `entered`
is where it stands if it has opened the bracket and then refuses what is in it. -/
inductive Node where
  | leaf (value : Leaf) (start after : Place)
  | array (start entered : Place) (items : Items)
  | object (start entered : Place) (members : Members)
  | absent (place : Place)
  | broken (start : Place) (fault : Fault)

/-- The items of an array, up to its end or to where the text breaks off. -/
inductive Items where
  | closed (after : Place)
  | broken (fault : Fault)
  | cons (head : Node) (tail : Items)

/-- The members of an object, up to its end or to where the text breaks off. -/
inductive Members where
  | closed (after : Place)
  | broken (fault : Fault)
  | cons (key : String) (places : MemberPlaces) (value : Node) (tail : Members)

end

instance : Inhabited Node := ⟨.leaf .null none none⟩

/-- A member of an object. -/
structure Member where
  key : String
  places : MemberPlaces
  value : Node

namespace Node

mutual

/-- The value of a part, or the first fault in it. -/
def toValue : Node → Except Fault Value
  | .leaf value _ _ => .ok value.toValue
  | .array _ _ items => (itemValues items).map .array
  | .object _ _ members => (memberValues members).map fun list => .object (sortEntries list)
  | .absent place => .error ⟨.endInValue, place⟩
  | .broken _ fault => .error fault
termination_by structural node => node

/-- The values of the items. -/
def itemValues : Items → Except Fault (List Value)
  | .closed _ => .ok []
  | .broken fault => .error fault
  | .cons head tail => do
    let value ← head.toValue
    let values ← itemValues tail
    return value :: values
termination_by structural items => items

/-- The keys and values of the members. -/
def memberValues : Members → Except Fault (List (String × Value))
  | .closed _ => .ok []
  | .broken fault => .error fault
  | .cons key _ value tail => do
    let value ← value.toValue
    let members ← memberValues tail
    return (key, value) :: members
termination_by structural members => members

end

mutual

/-- A value as a document without places. -/
def ofValue : Value → Node
  | .null => .leaf .null none none
  | .boolean b => .leaf (.boolean b) none none
  | .number n => .leaf (.number n) none none
  | .string s => .leaf (.string s) none none
  | .array items => .array none none (ofItems items)
  | .object members => .object none none (ofMembers members)
termination_by structural value => value

/-- Values as the items of an array. -/
def ofItems : List Value → Items
  | [] => .closed none
  | item :: rest => .cons (ofValue item) (ofItems rest)
termination_by structural items => items

/-- Keys and values as the members of an object. -/
def ofMembers : List (String × Value) → Members
  | [] => .closed none
  | (key, value) :: rest => .cons key .nowhere (ofValue value) (ofMembers rest)
termination_by structural members => members

end

/-- The place of the first byte of a part. -/
def start : Node → Place
  | .leaf _ start _ | .array start _ _ | .object start _ _ => start
  | .absent start | .broken start _ => start

/-- The fault of a part that is not of the expected kind: a leaf is read to its end first, a
bracket is left unread. -/
def mismatch (expected : String) : Node → Fault
  | .leaf value _ after => ⟨.wrongType value.found expected, after⟩
  | .array start _ _ => ⟨.wrongType .sequence expected, start.map .before⟩
  | .object start _ _ => ⟨.wrongType .map expected, start.map .before⟩
  | .absent place => ⟨.endInValue, place⟩
  | .broken _ fault => fault

end Node

/-- The items before the end of an array, and that end: a place, or the fault at which the text
breaks off. -/
def Items.split : Items → List Node × Except Fault Place
  | .closed after => ([], .ok after)
  | .broken fault => ([], .error fault)
  | .cons head tail => (head :: tail.split.1, tail.split.2)

/-- The members before the end of an object, and that end. -/
def Members.split : Members → List Member × Except Fault Place
  | .closed after => ([], .ok after)
  | .broken fault => ([], .error fault)
  | .cons key places value tail => (⟨key, places, value⟩ :: tail.split.1, tail.split.2)

/-- A whole document: its value, and the fault of having more text after it. -/
structure Document where
  root : Node
  surplus : Option Fault

namespace Document

/-- A value as a document. -/
def ofValue (value : Value) : Document := ⟨.ofValue value, none⟩

/-- What a reader makes of the root, provided that nothing follows it. -/
def readWith {α : Type} (read : Node → Except Fault α) (d : Document) : Except Fault α :=
  match read d.root, d.surplus with
  | .error fault, _ => .error fault
  | .ok _, some fault => .error fault
  | .ok result, none => .ok result

/-- The value of a document. -/
def toValue (d : Document) : Except Fault Value := d.readWith Node.toValue

end Document

end ConfigTemplate.Json
