import ConfigTemplate.Dictionary
import ConfigTemplate.Number.Basic

/-!
# JSON values

A value keeps the members of its objects as a list, so it can hold them in the order in which they
are to be written.  `Value.sorted` brings the members of every object into the order of their
names and keeps the last one of each name; a document read as a value is sorted.
-/

namespace ConfigTemplate.Json

/-- A JSON value. -/
inductive Value where
  | null
  | boolean (b : Bool)
  | number (n : Number)
  | string (s : String)
  | array (items : List Value)
  | object (members : List (String × Value))
deriving Inhabited

namespace Value

mutual

/-- The value with the members of every object sorted by name. -/
def sorted : Value → Value
  | .array items => .array (sortedItems items)
  | .object members => .object (sortEntries (sortedMembers members))
  | value => value
termination_by structural value => value

/-- Every value of a list sorted. -/
def sortedItems : List Value → List Value
  | [] => []
  | item :: rest => item.sorted :: sortedItems rest
termination_by structural items => items

/-- The value of every member sorted, the members themselves left in their order. -/
def sortedMembers : List (String × Value) → List (String × Value)
  | [] => []
  | (name, value) :: rest => (name, value.sorted) :: sortedMembers rest
termination_by structural members => members

end

/-- The member of a name, for an object. -/
def member? (name : String) : Value → Option Value
  | .object members => members.lookup name
  | _ => none

end Value

end ConfigTemplate.Json
