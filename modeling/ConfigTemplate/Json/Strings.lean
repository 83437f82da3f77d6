import ConfigTemplate.Json.Rest
import ConfigTemplate.Text.Basic

/-!
# Words and strings of JSON

The three words of JSON are read letter by letter.  A string is read to its closing quote, each
escape in it replaced by the character that it stands for.
-/

namespace ConfigTemplate.Json

/-- Reads the remaining letters of a word. -/
def readWord (p : Position) : List Char → List Char → Except Fault Rest
  | [], cs => .ok ⟨p, cs⟩
  | _ :: _, [] => .error ⟨.endInValue, p⟩
  | letter :: letters, c :: rest =>
    if c == letter then readWord (p.after c) letters rest
    else .error ⟨.expectedWord, p.afterByte c⟩

/-- The value of four hexadecimal digits. -/
def hexValue4? (a b c d : Char) : Option Nat := do
  let a ← Text.hexValue? a
  let b ← Text.hexValue? b
  let c ← Text.hexValue? c
  let d ← Text.hexValue? d
  return ((a * 16 + b) * 16 + c) * 16 + d

/-- Reads the four digits of an escape; the next four bytes are taken whatever they are. -/
def readHex (p : Position) (cs : List Char) : Except Fault Nat :=
  let value? :=
    match cs with
    | a :: b :: c :: d :: _ => hexValue4? a b c d
    | _ => none
  match value? with
  | some value => .ok value
  | none =>
    if (String.ofList cs).utf8ByteSize < 4 then .error ⟨.endInString, p.afterAll cs⟩
    else .error ⟨.invalidEscape, p.afterBytes 4 cs⟩

/-- The first half of a surrogate pair. -/
def isHighSurrogate (code : Nat) : Bool := 0xd800 ≤ code && code ≤ 0xdbff

/-- The second half of a surrogate pair. -/
def isLowSurrogate (code : Nat) : Bool := 0xdc00 ≤ code && code ≤ 0xdfff

/-- The character of a surrogate pair. -/
def surrogatePair (high low : Nat) : Char :=
  Char.ofNat (0x10000 + (high - 0xd800) * 0x400 + (low - 0xdc00))

/-- Reads an escape by number after its letter: the character, and how many characters of the
text it takes.  The first half of a surrogate pair has to be followed by an escape of the second
half. -/
def readNumberEscape (p : Position) (cs : List Char) : Except Fault (Char × Nat) := do
  let code ← readHex p cs
  let p := p.afterBytes 4 cs
  if isLowSurrogate code then .error ⟨.loneSurrogate, p⟩
  else if !isHighSurrogate code then return (Char.ofNat code, 4)
  else
    match cs.drop 4 with
    | [] => .error ⟨.endInString, p⟩
    | '\\' :: rest =>
      let p := p.after '\\'
      match rest with
      | [] => .error ⟨.endInString, p⟩
      | 'u' :: rest =>
        let p := p.after 'u'
        let low ← readHex p rest
        if isLowSurrogate low then return (surrogatePair code low, 10)
        else .error ⟨.loneSurrogate, p.afterBytes 4 rest⟩
      | c :: _ => .error ⟨.unfinishedSurrogate, p.afterByte c⟩
    | c :: _ => .error ⟨.unfinishedSurrogate, p.afterByte c⟩

/-- The character that a one-letter escape stands for. -/
def letterEscape? (c : Char) : Option Char :=
  if c == '"' || c == '\\' || c == '/' then some c
  else if c == 'b' then some '\x08'
  else if c == 'f' then some '\x0c'
  else if c == 'n' then some '\n'
  else if c == 'r' then some '\r'
  else if c == 't' then some '\t'
  else none

/-- Reads an escape after its backslash: the character, and how many characters of the text it
takes. -/
def readEscape (p : Position) : List Char → Except Fault (Char × Nat)
  | [] => .error ⟨.endInString, p⟩
  | 'u' :: rest => (readNumberEscape (p.after 'u') rest).map fun (c, count) => (c, count + 1)
  | c :: _ =>
    match letterEscape? c with
    | some escaped => .ok (escaped, 1)
    | none => .error ⟨.invalidEscape, p.afterByte c⟩

/-- Reads a string after its opening quote: its characters and what is left. -/
def readString (p : Position) (cs : List Char) : Except Fault (List Char × Rest) :=
  match cs with
  | [] => .error ⟨.endInString, p⟩
  | '"' :: rest => .ok ([], ⟨p.after '"', rest⟩)
  | '\\' :: rest =>
    match readEscape (p.after '\\') rest with
    | .error fault => .error fault
    | .ok (c, count) =>
      let p := (p.after '\\').afterAll (rest.take count)
      (readString p (rest.drop count)).map fun (chars, left) => (c :: chars, left)
  | c :: rest =>
    if c < ' ' then .error ⟨.controlCharacter, p.after c⟩
    else (readString (p.after c) rest).map fun (chars, left) => (c :: chars, left)
termination_by cs.length

end ConfigTemplate.Json
