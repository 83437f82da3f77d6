import ConfigTemplate.Json.Document

/-!
# Typed documents

A codec ties a type to its JSON form: it reads a part of a document as a value of the type, and it
writes such a value.  The codec of a record is put together from its fields.  A record is read in
the order of the text: the fault of the earliest member is reported, a broken end comes after the
members, and a missing field last, in the order of the fields.  Members that are no fields are
kept beside them.
-/

namespace ConfigTemplate.Json

/-- A way to read values of a type from a document and to write them. -/
structure Codec (α : Type) where
  read : Node → Except Fault α
  write : α → Value

namespace Codec

/-- The two truth values. -/
def boolean : Codec Bool where
  read
    | .leaf (.boolean b) _ _ => .ok b
    | node => .error (node.mismatch "a boolean")
  write b := .boolean b

/-- Any string. -/
def string : Codec String where
  read
    | .leaf (.string s) _ _ => .ok s
    | node => .error (node.mismatch "a string")
  write s := .string s

/-- Any number.  A reader of numbers opens a bracket before it refuses it. -/
def number : Codec Number where
  read
    | .leaf (.number n) _ _ => .ok n
    | .array _ entered _ => .error ⟨.wrongType .sequence "a JSON number", entered⟩
    | .object _ entered _ => .error ⟨.wrongType .map "a JSON number", entered⟩
    | node => .error (node.mismatch "a JSON number")
  write n := .number n

end Codec

/-- The widths of integers in a document. -/
inductive Width where
  | signed64
  | unsigned64
  | unsigned32
  | unsigned8
deriving DecidableEq

namespace Width

/-- The least integer of a width. -/
def least : Width → Int
  | .signed64 => -0x8000000000000000
  | _ => 0

/-- The greatest integer of a width. -/
def greatest : Width → Int
  | .signed64 => 0x7fffffffffffffff
  | .unsigned64 => 0xffffffffffffffff
  | .unsigned32 => 0xffffffff
  | .unsigned8 => 0xff

/-- The name of a width in messages. -/
def text : Width → String
  | .signed64 => "i64"
  | .unsigned64 => "u64"
  | .unsigned32 => "u32"
  | .unsigned8 => "u8"

/-- Every integer of a width is a number. -/
theorem fits (w : Width) {value : Int} (h : w.least ≤ value ∧ value ≤ w.greatest) :
  -0x8000000000000000 ≤ value ∧ value < 0x10000000000000000
  := by
  cases w <;> simp only [least, greatest] at h <;> omega

end Width

/-- An integer of a width. -/
structure Whole (w : Width) where
  value : Int
  inRange : w.least ≤ value ∧ value ≤ w.greatest
deriving DecidableEq

instance (w : Width) : CoeOut (Whole w) Int := ⟨Whole.value⟩

namespace Codec

/-- The integers of a width.  A number with a fraction part is of the wrong type even if the
fraction is zero. -/
def whole (w : Width) : Codec (Whole w) where
  read
    | .leaf (.number (.integer value _)) _ after =>
      if h : w.least ≤ value ∧ value ≤ w.greatest then .ok ⟨value, h⟩
      else .error ⟨.wrongValue (.integer value) w.text, after⟩
    | node => .error (node.mismatch w.text)
  write n := .number (.integer n.value (w.fits n.inRange))

/-- Reads every item of an array, up to its end. -/
def readItems {α : Type} (read : Node → Except Fault α) : Items → Except Fault (List α)
  | .closed _ => .ok []
  | .broken fault => .error fault
  | .cons head tail => do
    let value ← read head
    let values ← readItems read tail
    return value :: values

/-- A list of values of one kind. -/
def list {α : Type} (item : Codec α) : Codec (List α) where
  read
    | .array _ _ items => readItems item.read items
    | node => .error (node.mismatch "a sequence")
  write values := .array (values.map item.write)

/-- Reads every member of an object, up to its end. -/
def readMembers {α : Type} (read : Node → Except Fault α) :
    Members → Except Fault (List (String × α))
  | .closed _ => .ok []
  | .broken fault => .error fault
  | .cons key _ value tail => do
    let value ← read value
    let members ← readMembers read tail
    return (key, value) :: members

/-- An object with any names and values of one kind; the last of a name stays. -/
def dictionary {α : Type} (item : Codec α) : Codec (Dictionary α) where
  read
    | .object _ _ members => (readMembers item.read members).map .ofList
    | node => .error (node.mismatch "a map")
  write d := .object (d.map item.write).entries

end Codec

/-- A fault in a record, under the number of the member that causes it. -/
abbrev Ranked := Nat × Fault

/-- Both results, or the fault of the earlier member. -/
def earliest {α β : Type} (a : Except Ranked α) (b : Except Ranked β) : Except Ranked (α × β) :=
  match a, b with
  | .ok x, .ok y => .ok (x, y)
  | .error e, .ok _ => .error e
  | .ok _, .error e => .error e
  | .error e, .error e' => .error (if e'.1 < e.1 then e' else e)

/-- Some fields of a record.  They are read from the members of an object, given the fault of each
field that is missing. -/
structure Fields (α : Type) where
  names : List String
  read : List Member → (String → Fault) → Except Ranked α
  write : α → List (String × Value)

namespace Fields

/-- The members of a name, each with its number. -/
def occurrences (name : String) (members : List Member) : List (Member × Nat) :=
  members.zipIdx.filter fun (member, _) => member.key == name

/-- One field.  A second member of its name is a fault of its own. -/
def field {α : Type} (name : String) (codec : Codec α) : Fields α where
  names := [name]
  read members missing :=
    match occurrences name members with
    | [] => .error (members.length + 1, missing name)
    | (member, i) :: others =>
      match codec.read member.value, others with
      | .error fault, _ => .error (i, fault)
      | .ok value, [] => .ok value
      | .ok _, (again, j) :: _ => .error (j, ⟨.duplicateField name, again.places.refused⟩)
  write value := [(name, codec.write value)]

/-- The fields of two groups, in this order. -/
def and {α β : Type} (a : Fields α) (b : Fields β) : Fields (α × β) where
  names := a.names ++ b.names
  read members missing := earliest (a.read members missing) (b.read members missing)
  write values := a.write values.1 ++ b.write values.2

/-- The members that are no fields, as a dictionary. -/
def readOthers (names : List String) (members : List Member) :
    Except Ranked (Dictionary Value) :=
  let others := members.zipIdx.filter fun (member, _) => !names.contains member.key
  let values : Except Ranked (List (String × Value)) := others.mapM fun (member, i) =>
    match member.value.toValue with
    | .ok value => .ok (member.key, value)
    | .error fault => .error (i, fault)
  values.map .ofList

/-- The end of a record, ranked after its members. -/
def readEnd (members : List Member) (ending : Except Fault Place) : Except Ranked Unit :=
  match ending with
  | .ok _ => .ok ()
  | .error fault => .error (members.length, fault)

/-- The fault of a field that is missing when the object ends. -/
def missingAt (ending : Except Fault Place) (name : String) : Fault :=
  match ending with
  | .ok after => ⟨.missingField name, after⟩
  | .error fault => fault

end Fields

namespace Codec

/-- A record with the given fields that keeps all other members.  It is written with its fields
first, in their order, and the others after them. -/
def record {α σ : Type} (name : String) (fields : Fields α)
    (make : α → Dictionary Value → σ) (parts : σ → α × Dictionary Value) : Codec σ where
  read
    | .object _ _ members =>
      let (list, ending) := members.split
      let known := fields.read list (Fields.missingAt ending)
      let others := Fields.readOthers fields.names list
      match earliest (earliest known others) (Fields.readEnd list ending) with
      | .ok ((values, extra), ()) => .ok (make values extra)
      | .error (_, fault) => .error fault
    | node => .error (node.mismatch ("struct " ++ name))
  write record :=
    let (values, extra) := parts record
    .object (fields.write values ++ extra.entries)

/-- What is wrong after the last field of a record that is written as an array. -/
def surplusItem (fieldCount : Nat) (items : List Node) (ending : Except Fault Place) :
    Except Ranked Unit :=
  match items[fieldCount]?, ending with
  | some item, _ => .error (fieldCount, ⟨.trailingCharacters, item.start⟩)
  | none, .ok _ => .ok ()
  | none, .error fault =>
    if items.length < fieldCount || fault.cause == .trailingComma || fault.cause == .endInList then
      .error (items.length, fault)
    else .error (items.length, ⟨.trailingCharacters, fault.place⟩)

/-- A record that skips all other members.  It may also be written as the array of its fields, in
their order. -/
def plainRecord {α : Type} (name : String) (fields : Fields α) : Codec α where
  read
    | .object _ _ members =>
      let (list, ending) := members.split
      let known := fields.read list (Fields.missingAt ending)
      match earliest known (Fields.readEnd list ending) with
      | .ok (values, ()) => .ok values
      | .error (_, fault) => .error fault
    | .array _ _ items =>
      let (nodes, ending) := items.split
      let expected :=
        "struct " ++ name ++ " with " ++ toString fields.names.length ++ " elements"
      let missing : String → Fault := fun field =>
        match ending with
        | .ok after => ⟨.wrongLength nodes.length expected, after⟩
        | .error _ => Fields.missingAt ending field
      let members : List Member :=
        (fields.names.zip nodes).map fun (key, node) => ⟨key, .nowhere, node⟩
      match earliest (fields.read members missing)
          (surplusItem fields.names.length nodes ending) with
      | .ok (values, ()) => .ok values
      | .error (_, fault) => .error fault
    | node => .error (node.mismatch ("struct " ++ name))
  write values := .object (fields.write values)

/-- The same form for another type. -/
def convert {α β : Type} (codec : Codec α) (make : α → β) (parts : β → α) : Codec β where
  read node := (codec.read node).map make
  write value := codec.write (parts value)

/-- The fault of a text that breaks off where a word should be: only a string is looked into, and
what starts like anything else is refused at its start. -/
def wordFault (start : Place) (fault : Fault) : Fault :=
  match fault.cause with
  | .expectedWord | .invalidNumber | .numberOutOfRange | .endInValue => ⟨.expectedValue, start⟩
  | _ => fault

/-- Whether an object ends after the null of its only member.  The reader wants the closing
bracket and nothing else. -/
def endOfWord (next : Place) : Members → Except Fault Unit
  | .closed _ => .ok ()
  | .broken ⟨.endInObject, place⟩ => .error ⟨.endInObject, place⟩
  | _ => .error ⟨.expectedValue, next⟩

/-- One of some words.  A word may also be written as the only key of an object, with null as its
value. -/
def choice {α : Type} (known : List (String × α)) (word : α → String) : Codec α where
  read
    | .leaf (.string s) _ after =>
      match known.lookup s with
      | some value => .ok value
      | none => .error ⟨.unknownVariant s (known.map Prod.fst), after⟩
    | .object _ _ (.cons key places content tail) =>
      match known.lookup key, content with
      | none, _ => .error ⟨.unknownVariant key (known.map Prod.fst), places.keyEnd⟩
      | some value, .leaf .null _ _ => (endOfWord places.next tail).map fun _ => value
      | some _, node => .error (node.mismatch "unit")
    | .object _ _ (.closed after) => .error ⟨.expectedValue, after⟩
    | .object _ _ (.broken fault) => .error fault
    | .absent place => .error ⟨.endInValue, place⟩
    | .broken start fault => .error (wordFault start fault)
    | node => .error ⟨.expectedValue, node.start⟩
  write value := .string (word value)

/-- Reads a typed document. -/
def readDocument {α : Type} (codec : Codec α) (d : Document) : Except Fault α :=
  d.readWith codec.read

end Codec

end ConfigTemplate.Json
