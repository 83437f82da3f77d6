import ConfigTemplate.Json.Strings

/-!
# Skipping values

A reader that has no use for a value still has to find its end.  It looks at the form of the value
only: numbers may be of any size, escapes may stand for halves of surrogate pairs, and brackets
may be nested to any depth.  What it complains about is therefore not always what a reader of the
value complains about.
-/

namespace ConfigTemplate.Json

/-- Skips digits, of which there has to be one. -/
def skipDigits (r : Rest) : Except Fault Rest :=
  let digits := r.chars.takeWhile Char.isDigit
  if digits.isEmpty then .error ⟨.invalidNumber, r.peek⟩
  else .ok ⟨r.position.afterAll digits, r.chars.dropWhile Char.isDigit⟩

/-- Skips a minus sign, if there is one. -/
def skipMinus (r : Rest) : Rest :=
  match r.chars with
  | '-' :: rest => r.behind '-' rest
  | _ => r

/-- Skips the whole part of a numeral, which is one zero or starts with another digit. -/
def skipWhole (r : Rest) : Except Fault Rest :=
  match r.chars with
  | '0' :: rest =>
    let left := r.behind '0' rest
    if (rest.head?.map Char.isDigit).getD false then .error ⟨.invalidNumber, left.peek⟩
    else .ok left
  | _ => skipDigits r

/-- Skips the fraction of a numeral, if there is one. -/
def skipFraction (r : Rest) : Except Fault Rest :=
  match r.chars with
  | '.' :: rest => skipDigits (r.behind '.' rest)
  | _ => .ok r

/-- Skips a sign, if there is one. -/
def skipSign (r : Rest) : Rest :=
  match r.chars with
  | c :: rest => if c == '+' || c == '-' then r.behind c rest else r
  | [] => r

/-- Skips the exponent of a numeral, if there is one. -/
def skipExponent (r : Rest) : Except Fault Rest :=
  match r.chars with
  | c :: rest =>
    if c == 'e' || c == 'E' then skipDigits (skipSign (r.behind c rest)) else .ok r
  | [] => .ok r

/-- Skips a numeral. -/
def skipNumeral (r : Rest) : Except Fault Rest := do
  skipExponent (← skipFraction (← skipWhole (skipMinus r)))

/-- The number of characters of the escape after a backslash. -/
def escapeLength (p : Position) : List Char → Except Fault Nat
  | [] => .error ⟨.endInString, p⟩
  | 'u' :: rest => (readHex (p.after 'u') rest).map fun _ => 5
  | c :: _ =>
    if (letterEscape? c).isSome then .ok 1 else .error ⟨.invalidEscape, p.afterByte c⟩

/-- Skips a string after its opening quote.  A control character is left where it stands. -/
def skipString (p : Position) (cs : List Char) : Except Fault Rest :=
  match cs with
  | [] => .error ⟨.endInString, p⟩
  | '"' :: rest => .ok ⟨p.after '"', rest⟩
  | '\\' :: rest =>
    match escapeLength (p.after '\\') rest with
    | .error fault => .error fault
    | .ok count => skipString ((p.after '\\').afterAll (rest.take count)) (rest.drop count)
  | c :: rest =>
    if c < ' ' then .error ⟨.controlCharacter, p⟩ else skipString (p.after c) rest
termination_by cs.length

/-- Skips a value without parts, or tells that no value starts here. -/
def skipLeaf (r : Rest) : Except Fault Rest :=
  match r.chars with
  | [] => .error ⟨.endInValue, r.position⟩
  | 'n' :: rest => readWord (r.position.after 'n') "ull".toList rest
  | 't' :: rest => readWord (r.position.after 't') "rue".toList rest
  | 'f' :: rest => readWord (r.position.after 'f') "alse".toList rest
  | '"' :: rest => skipString (r.position.after '"') rest
  | c :: _ =>
    if c == '-' || c.isDigit then skipNumeral r else .error ⟨.expectedValue, r.peek⟩

/-- The two kinds of brackets. -/
inductive Bracket where
  | square
  | curly
deriving DecidableEq

namespace Bracket

/-- The bracket that closes what one of this kind opens. -/
def closing : Bracket → Char
  | .square => ']'
  | .curly => '\x7d'

/-- What is wrong if the text ends inside a bracket. -/
def unclosed : Bracket → Cause
  | .square => .endInList
  | .curly => .endInObject

/-- What is wrong if something else than a comma follows an item. -/
def noComma : Bracket → Cause
  | .square => .expectedListComma
  | .curly => .expectedObjectComma

end Bracket

/-- Skips the key of a member and the colon after it. -/
def skipKey (r : Rest) : Except Fault Rest := do
  let here := r.skipSpace
  match here.chars with
  | [] => .error ⟨.endInObject, here.position⟩
  | '"' :: rest =>
    let colon := (← skipString (here.position.after '"') rest).skipSpace
    match colon.chars with
    | ':' :: rest => .ok (colon.behind ':' rest)
    | [] => .error ⟨.endInObject, colon.position⟩
    | _ :: _ => .error ⟨.expectedColon, colon.peek⟩
  | _ :: _ => .error ⟨.keyNotString, here.peek⟩

/-- Skips what comes in front of the value of an item: its key, if the bracket is one of
members. -/
def skipLabel : Bracket → Rest → Except Fault Rest
  | .square, r => .ok r
  | .curly, r => skipKey r

/-- What a reader looks for that skips. -/
inductive Sought where
  | value
  /-- An item or the closing bracket. -/
  | item
  /-- A comma or the closing bracket. -/
  | comma
deriving DecidableEq

/-- Skips what is sought, and goes on until the given brackets, the innermost first, are closed.
`fuel` is more than twice the number of characters. -/
def skipFrom (fuel : Nat) (opened : List Bracket) (sought : Sought) (r : Rest) :
    Except Fault Rest :=
  match fuel with
  | 0 => .error ⟨.endInValue, r.position⟩
  | fuel + 1 =>
    match sought, opened with
    | .value, _ =>
      let here := r.skipSpace
      match here.chars with
      | '[' :: rest => skipFrom fuel (.square :: opened) .item (here.behind '[' rest)
      | '\x7b' :: rest => skipFrom fuel (.curly :: opened) .item (here.behind '\x7b' rest)
      | _ => (skipLeaf here).bind (skipFrom fuel opened .comma)
    | _, [] => .ok r
    | sought, bracket :: outer =>
      let here := r.skipSpace
      match here.chars with
      | [] => .error ⟨bracket.unclosed, here.position⟩
      | c :: rest =>
        if c == bracket.closing then skipFrom fuel outer .comma (here.behind c rest)
        else if sought == .item then
          (skipLabel bracket here).bind (skipFrom fuel opened .value)
        else if c == ',' then
          (skipLabel bracket (here.behind c rest)).bind (skipFrom fuel opened .value)
        else .error ⟨bracket.noComma, here.peek⟩

/-- Skips a value. -/
def skipValue (r : Rest) : Except Fault Rest :=
  skipFrom (2 * r.chars.length + 2) [] .value r

end ConfigTemplate.Json
