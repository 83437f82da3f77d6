import ConfigTemplate.Json.Fault

/-!
# The rest of a text

What a reader of a JSON text has still in front of it, and where it stands.
-/

namespace ConfigTemplate.Json

/-- What is left of a text: a position and the characters from there on. -/
structure Rest where
  position : Position
  chars : List Char

/-- The blank characters between the parts of a JSON text. -/
def isSpace (c : Char) : Bool :=
  c == ' ' || c == '\t' || c == '\n' || c == '\r'

/-- Skips blank characters. -/
def skipSpace (p : Position) : List Char → Rest
  | [] => ⟨p, []⟩
  | c :: rest => if isSpace c then skipSpace (p.after c) rest else ⟨p, c :: rest⟩

/-- The position just past the first byte of what is left. -/
def Rest.peek (r : Rest) : Position :=
  match r.chars with
  | [] => r.position
  | c :: _ => r.position.afterByte c

/-- What is left behind the blank characters in front. -/
def Rest.skipSpace (r : Rest) : Rest := Json.skipSpace r.position r.chars

/-- What is left behind the first character, given that character and what follows it. -/
def Rest.behind (r : Rest) (c : Char) (rest : List Char) : Rest := ⟨r.position.after c, rest⟩

end ConfigTemplate.Json
