import ConfigTemplate.Bindings.Basic
import ConfigTemplate.Json.Reader
import ConfigTemplate.Log

/-!
# Sources of bindings

Bindings come from `NAME=VALUE` pairs, from a JSON object, and from variables named after the
placeholders.  The entries of a source are taken one after the other, and the first that is
refused ends it.
-/

namespace ConfigTemplate.Bindings

/-- Splits a pair at its first equals sign.  Blanks around the name are dropped, the value is left
as it is. -/
def splitPair (pair : String) : Except Error (String × String) :=
  let cs := pair.toList
  let name := Text.trimChars (cs.takeWhile (· != '='))
  match cs.dropWhile (· != '=') with
  | _ :: raw =>
    if name.isEmpty then .error (.malformedBinding pair)
    else .ok (String.ofList name, String.ofList raw)
  | [] => .error (.malformedBinding pair)

/-- Adds the bindings of pairs. -/
def addPairs (b : Bindings) : List String → Except Error Bindings
  | [] => .ok b
  | pair :: rest => do
    let (name, raw) ← splitPair pair
    let b ← b.setRaw name raw
    b.addPairs rest

/-- The bindings of pairs. -/
def ofPairs (pairs : List String) : Except Error Bindings := empty.addPairs pairs

/-- Adds the bindings of the members of an object. -/
def addMembers (b : Bindings) : List (String × Json.Value) → Except Error Bindings
  | [] => .ok b
  | (name, value) :: rest => do
    let b ← b.setJson name value
    b.addMembers rest

/-- The bindings of a JSON text that holds an object. -/
def ofJsonText (text : String) : Except Error Bindings :=
  match Json.parse text with
  | .error fault => .error (.json fault)
  | .ok (.object members) => empty.addMembers members
  | .ok _ => .error (.operationFailed "bindings file must contain a JSON object")

/-- Adds the bindings of the names whose variable is set. -/
def addVariables (value? : String → Option String) (b : Bindings) :
    List String → Except Error Bindings
  | [] => .ok b
  | name :: rest =>
    match value? name with
    | none => addVariables value? b rest
    | some raw => do
      let b ← b.setRaw name raw
      addVariables value? b rest

/-- The bindings of names by variables. -/
def ofVariables (names : List String) (value? : String → Option String) :
    Except Error Bindings :=
  addVariables value? empty names

/-- The bindings of a file, given what reading it gave. -/
def ofFile (path : String) (content : Except FileFault String) : Logged Bindings := do
  let text ← Logged.ofExcept (content.mapError (Error.unreadable path))
  let b ← ofJsonText text
  Logged.debug .bindings ("Loaded " ++ toString b.size ++ " binding(s) from " ++ path)
  return b

end ConfigTemplate.Bindings
