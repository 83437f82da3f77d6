import ConfigTemplate.Error
import ConfigTemplate.Scalar

/-!
# Value domains

The domain of a placeholder tells which values it takes.  A value comes in three ways: typed
already, which is only checked; as free text, which is read in the manner of the domain and then
checked; or as JSON, where a string is taken for free text.
-/

namespace ConfigTemplate

/-- A set of values for a placeholder. -/
inductive Domain where
  /-- Integers greater than zero. -/
  | positiveInteger
  /-- Integers from zero up. -/
  | nonNegativeInteger
  /-- Signed 64-bit integers. -/
  | integer
  /-- The integers between two bounds, both included. -/
  | integerRange (least greatest : Int)
  | boolean
  /-- Any number. -/
  | number
  /-- Texts that are not blank, naming a file or directory. -/
  | path
  /-- Texts that are not blank.  The known ones are in common use; others are taken as well. -/
  | enumeration (known : List String)
  /-- Any text. -/
  | text
deriving DecidableEq

namespace Domain

/-- The domain in words. -/
def describe : Domain → String
  | .positiveInteger => "positive integer"
  | .nonNegativeInteger => "non-negative integer"
  | .integer => "integer"
  | .integerRange least greatest =>
    "integer in " ++ Number.integerText least ++ "..="
      ++ Number.integerText greatest
  | .boolean => "boolean"
  | .number => "number"
  | .path => "path"
  | .enumeration _ => "enumeration"
  | .text => "text"

/-- Whether a value belongs to the domain. -/
def admits : Domain → Scalar → Bool
  | .boolean, .boolean _ => true
  | .positiveInteger, .number n => n.toUnsigned?.any (0 < ·)
  | .nonNegativeInteger, .number n => n.toUnsigned?.isSome
  | .integer, .number n => n.toSigned?.isSome
  | .integerRange least greatest, .number n =>
    n.toSigned?.any fun value => least ≤ value && value ≤ greatest
  | .number, .number _ => true
  | .path, .text s => !Text.isBlankText s
  | .enumeration _, .text s => !Text.isBlankText s
  | .text, .text _ => true
  | _, _ => false

/-- The error of a value outside the domain. -/
def mismatch (d : Domain) (name shown : String) : Error :=
  .invalidValue name ("expected a " ++ d.describe ++ ", got '" ++ shown ++ "'")

/-- Refuses a value outside the domain. -/
def check (d : Domain) (name : String) (v : Scalar) : Except Error Unit :=
  if d.admits v then .ok () else .error (d.mismatch name v.display)

/-- A truth value typed by hand: a word in any case of letters, or a digit. -/
def parseBoolean? (raw : String) : Option Bool :=
  let lowered := raw.toList.map Char.toLower
  if lowered == "true".toList || lowered == ['1'] then some true
  else if lowered == "false".toList || lowered == ['0'] then some false
  else none

/-- How free text is read in the manner of a domain, before the value is checked. -/
def read? (d : Domain) (raw : String) : Option Scalar :=
  let trimmed := Text.trim raw
  match d with
  | .boolean => (parseBoolean? trimmed).map .boolean
  | .positiveInteger | .nonNegativeInteger | .integer | .integerRange _ _ | .number =>
    (Number.parse? trimmed.toList).map .number
  | .path | .enumeration _ => some (.text trimmed)
  | .text => some (.text raw)

/-- The value of a free text. -/
def parse (d : Domain) (name raw : String) : Except Error Scalar :=
  match d.read? raw with
  | none => .error (d.mismatch name raw)
  | some v => (d.check name v).map fun _ => v

/-- The value of a JSON value.  A string is read as free text, so that a number may also be given
in quotes. -/
def accept (d : Domain) (name : String) (value : Json.Value) : Except Error Scalar :=
  match value with
  | .string raw => d.parse name raw
  | .boolean b => (d.check name (.boolean b)).map fun _ => .boolean b
  | .number n => (d.check name (.number n)).map fun _ => .number n
  | other =>
    .error (.invalidValue name ("expected a " ++ d.describe ++ ", found " ++ other.compact))

end Domain

end ConfigTemplate
