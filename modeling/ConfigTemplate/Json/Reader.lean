import ConfigTemplate.Json.Document
import ConfigTemplate.Json.Numeral
import ConfigTemplate.Json.Skipping

/-!
# Reading JSON text

`Document.ofText` takes a text apart.  It never fails: where the text is not JSON, the document
breaks off with a fault.  Brackets may be nested 127 deep.  Where the value of a member breaks
off, the document goes on with what a reader finds that skips the value.
-/

namespace ConfigTemplate.Json

/-- Reads a leaf at the first character of a text, or tells that no value starts there. -/
def readLeaf (p : Position) (cs : List Char) : Except Fault (Leaf × Rest) :=
  match cs with
  | [] => .error ⟨.endInValue, p⟩
  | 'n' :: rest => (readWord (p.after 'n') "ull".toList rest).map (Leaf.null, ·)
  | 't' :: rest => (readWord (p.after 't') "rue".toList rest).map (Leaf.boolean true, ·)
  | 'f' :: rest => (readWord (p.after 'f') "alse".toList rest).map (Leaf.boolean false, ·)
  | '"' :: rest =>
    (readString (p.after '"') rest).map fun (chars, left) => (.string (String.ofList chars), left)
  | c :: _ =>
    if c == '-' || c.isDigit then do
      let numeral ← Numeral.read p cs
      match numeral.toNumber with
      | .error count => .error ⟨.numberOutOfRange, p.afterAll (cs.take count)⟩
      | .ok number =>
        let length := numeral.length
        return (.number number, ⟨p.afterAll (cs.take length), cs.drop length⟩)
    else .error ⟨.expectedValue, p.afterByte c⟩

/-- Where a reader stands that opened an array to find something else in it. -/
def enteredArray (p : Position) (cs : List Char) : Position :=
  let inside := skipSpace p cs
  match inside.chars with
  | ']' :: _ => inside.position.after ']'
  | ',' :: rest => (skipSpace (inside.position.after ',') rest).position
  | _ => inside.position

/-- Where a reader stands that leaves an object at once, after its bracket or after a key. -/
def leftObject (p : Position) (cs : List Char) : Position :=
  let inside := skipSpace p cs
  match inside.chars with
  | '\x7d' :: _ => inside.position.after '\x7d'
  | _ => inside.position

/-- Where the next item of an array starts, if it is not the end that comes next.  In front of every
item but the first one there is a comma. -/
def nextItem (first : Bool) (here : Rest) : Except Fault Rest :=
  if first then .ok here
  else
    match here.chars with
    | ',' :: rest =>
      let next := skipSpace (here.position.after ',') rest
      match next.chars with
      | ']' :: _ => .error ⟨.trailingComma, next.peek⟩
      | _ => .ok next
    | _ => .error ⟨.expectedListComma, here.peek⟩

/-- Where the next key of an object starts, if it is not the end that comes next. -/
def nextKey (first : Bool) (here : Rest) : Except Fault Rest :=
  if first then .ok here
  else
    match here.chars with
    | ',' :: rest => .ok (skipSpace (here.position.after ',') rest)
    | _ => .error ⟨.expectedObjectComma, here.peek⟩

/-- Reads the key of a member: its characters and what is left. -/
def readKey (here : Rest) : Except Fault (List Char × Rest) :=
  match here.chars with
  | [] => .error ⟨.endInValue, here.position⟩
  | '"' :: rest => readString (here.position.after '"') rest
  | '\x7d' :: _ => .error ⟨.trailingComma, here.peek⟩
  | _ :: _ => .error ⟨.keyNotString, here.peek⟩

/-- What is left behind the colon that has to follow a key. -/
def behindColon (here : Rest) : Except Fault Rest :=
  match here.chars with
  | ':' :: rest => .ok (here.behind ':' rest)
  | [] => .error ⟨.endInObject, here.position⟩
  | _ => .error ⟨.expectedColon, here.peek⟩

mutual

/-- Reads a value: its part of the document, and what is left unless the text broke off.  `fuel`
is more than twice the number of characters, and `depth` is the number of brackets that may still
be opened. -/
def readNode (fuel depth : Nat) (p : Position) (cs : List Char) : Node × Option Rest :=
  match fuel with
  | 0 => (.broken p ⟨.endInValue, p⟩, none)
  | fuel + 1 =>
    let here := skipSpace p cs
    match here.chars, depth with
    | '[' :: _, 0 | '\x7b' :: _, 0 => (.broken here.peek ⟨.tooDeep, here.peek⟩, none)
    | '[' :: rest, depth + 1 =>
      let p := here.position.after '['
      let (items, left) := readItems fuel depth true p rest
      (.array here.peek (enteredArray p rest) items, left)
    | '\x7b' :: rest, depth + 1 =>
      let p := here.position.after '\x7b'
      let (members, left) := readMembers fuel depth true p rest
      (.object here.peek (leftObject p rest) members, left)
    | chars, _ =>
      if chars.isEmpty then (.absent here.position, none)
      else
        match readLeaf here.position chars with
        | .ok (leaf, left) => (.leaf leaf here.peek left.position, some left)
        | .error fault => (.broken here.peek fault, none)
termination_by structural fuel

/-- Reads the items of an array after its bracket, or after an item. -/
def readItems (fuel depth : Nat) (first : Bool) (p : Position) (cs : List Char) :
    Items × Option Rest :=
  match fuel with
  | 0 => (.broken ⟨.endInList, p⟩, none)
  | fuel + 1 =>
    let here := skipSpace p cs
    match here.chars with
    | [] => (.broken ⟨.endInList, here.position⟩, none)
    | ']' :: rest =>
      let p := here.position.after ']'
      (.closed p, some ⟨p, rest⟩)
    | _ =>
      match nextItem first here with
      | .error fault => (.broken fault, none)
      | .ok next =>
        match readNode fuel depth next.position next.chars with
        | (item, none) => (.cons item (.broken ⟨.endInList, next.position⟩), none)
        | (item, some left) =>
          let (items, left) := readItems fuel depth false left.position left.chars
          (.cons item items, left)
termination_by structural fuel

/-- Reads the members of an object after its bracket, or after a member. -/
def readMembers (fuel depth : Nat) (first : Bool) (p : Position) (cs : List Char) :
    Members × Option Rest :=
  match fuel with
  | 0 => (.broken ⟨.endInObject, p⟩, none)
  | fuel + 1 =>
    let here := skipSpace p cs
    match here.chars with
    | [] => (.broken ⟨.endInObject, here.position⟩, none)
    | '\x7d' :: rest =>
      let p := here.position.after '\x7d'
      (.closed p, some ⟨p, rest⟩)
    | _ =>
      match (nextKey first here).bind readKey with
      | .error fault => (.broken fault, none)
      | .ok (name, afterKey) =>
        let places : MemberPlaces :=
          ⟨afterKey.position, leftObject afterKey.position afterKey.chars, none⟩
        let name := String.ofList name
        match behindColon afterKey.skipSpace with
        | .error fault =>
          (.cons name places (.broken afterKey.skipSpace.peek fault) (.broken fault), none)
        | .ok colon =>
          let (value, left) := readNode fuel depth colon.position colon.chars
          let left : Except Fault Rest :=
            match left with
            | some left => .ok left
            | none => skipValue colon
          match left with
          | .error fault => (.cons name places value (.broken fault), none)
          | .ok left =>
            let next := left.skipSpace
            let (members, left) := readMembers fuel depth false next.position next.chars
            (.cons name { places with next := next.position } value members, left)
termination_by structural fuel

end

/-- The number of brackets that may be open at once. -/
def depthLimit : Nat := 127

namespace Document

/-- The document of a list of characters. -/
def ofChars (cs : List Char) : Document :=
  match readNode (2 * cs.length + 2) depthLimit .start cs with
  | (root, none) => ⟨root, none⟩
  | (root, some left) =>
    let final := skipSpace left.position left.chars
    if final.chars.isEmpty then ⟨root, none⟩
    else ⟨root, some ⟨.trailingCharacters, final.peek⟩⟩

/-- The document of a text. -/
def ofText (text : String) : Document := ofChars text.toList

end Document

/-- The value of a JSON text. -/
def parse (text : String) : Except Fault Value := (Document.ofText text).toValue

end ConfigTemplate.Json
