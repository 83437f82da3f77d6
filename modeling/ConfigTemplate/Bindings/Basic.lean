import ConfigTemplate.Placeholder.Catalog

/-!
# Bindings

Bindings give values to placeholder names.  The value of a documented placeholder has to belong to
its domain; a value for any other name is taken as it comes.  An operation that is refused gives
no bindings, so the old ones stay as they are.
-/

namespace ConfigTemplate

/-- Values for placeholder names. -/
structure Bindings where
  values : Dictionary Scalar
deriving DecidableEq

namespace Bindings

/-- No bindings. -/
def empty : Bindings := ⟨.empty⟩

instance : Inhabited Bindings := ⟨empty⟩

/-- The value of a name. -/
def get? (b : Bindings) (name : String) : Option Scalar := b.values.get? name

/-- Whether a name has a value. -/
def contains (b : Bindings) (name : String) : Bool := b.values.contains name

/-- The bound names in increasing order. -/
def names (b : Bindings) : List String := b.values.names

/-- The number of bound names. -/
def size (b : Bindings) : Nat := b.values.size

/-- The names with their values in increasing order. -/
def toList (b : Bindings) : List (String × Scalar) := b.values.entries

/-- Binds a name to a value without looking at it. -/
def insert (b : Bindings) (name : String) (v : Scalar) : Bindings :=
  ⟨b.values.insert name v⟩

/-- Takes a name out. -/
def erase (b : Bindings) (name : String) : Bindings := ⟨b.values.erase name⟩

/-- Both bindings together; the second one decides about the names that both have. -/
def merge (b c : Bindings) : Bindings := ⟨b.values.merge c.values⟩

/-- The value that a typed value becomes under a name. -/
def checked (name : String) (v : Scalar) : Except Error Scalar :=
  match documented? name with
  | some entry => (entry.domain.check name v).map fun _ => v
  | none => .ok v

/-- The value that a free text becomes under a name. -/
def readRaw (name raw : String) : Except Error Scalar :=
  match documented? name with
  | some entry => entry.domain.parse name raw
  | none => .ok (.infer raw)

/-- The value that a JSON value becomes under a name. -/
def readJson (name : String) (value : Json.Value) : Except Error Scalar :=
  match documented? name with
  | some entry => entry.domain.accept name value
  | none =>
    match value with
    | .string s => .ok (.text s)
    | .boolean b => .ok (.boolean b)
    | .number n => .ok (.number n)
    | other => .error (.invalidValue name ("expected a scalar, found " ++ other.compact))

/-- Binds a name to a typed value. -/
def set (b : Bindings) (name : String) (v : Scalar) : Except Error Bindings :=
  (checked name v).map (b.insert name)

/-- Binds a name to the value of a free text. -/
def setRaw (b : Bindings) (name raw : String) : Except Error Bindings :=
  (readRaw name raw).map (b.insert name)

/-- Binds a name to the value of a JSON value. -/
def setJson (b : Bindings) (name : String) (value : Json.Value) : Except Error Bindings :=
  (readJson name value).map (b.insert name)

end Bindings

end ConfigTemplate
