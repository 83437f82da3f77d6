import ConfigTemplate.Text.Printable

/-!
# Texts

What is done with the characters of a text: blank ones are taken off its ends, digits are put
together to a number, the text is quoted for a message, and it is cut into pieces.
-/

namespace ConfigTemplate.Text

/-! ### Blank characters -/

/-- A blank character, which is one of the White_Space property. -/
def isBlank (c : Char) : Bool :=
  ('\t' ≤ c && c ≤ '\r') || c == ' ' || c == '\u0085' || c == '\u00a0' || c == '\u1680'
    || ('\u2000' ≤ c && c ≤ '\u200a') || c == '\u2028' || c == '\u2029' || c == '\u202f'
    || c == '\u205f' || c == '\u3000'

/-- The characters without the blank ones at either end. -/
def trimChars (cs : List Char) : List Char :=
  ((cs.dropWhile isBlank).reverse.dropWhile isBlank).reverse

/-- The text without the blank characters at either end. -/
def trim (s : String) : String :=
  String.ofList (trimChars s.toList)

/-- A text that holds blank characters only. -/
def isBlankText (s : String) : Bool :=
  s.toList.all isBlank

/-! ### Digits -/

/-- The value of a hexadecimal digit. -/
def hexValue? (c : Char) : Option Nat :=
  if c.isDigit then some (c.toNat - '0'.toNat)
  else if 'a' ≤ c && c ≤ 'f' then some (c.toNat - 'a'.toNat + 10)
  else if 'A' ≤ c && c ≤ 'F' then some (c.toNat - 'A'.toNat + 10)
  else none

/-- A hexadecimal digit. -/
def isHexDigit (c : Char) : Bool := (hexValue? c).isSome

/-- The number of some digits in a base. -/
def numberOfDigits (base : Nat) (digits : List Char) : Nat :=
  digits.foldl (fun n c => n * base + (hexValue? c).getD 0) 0

/-- The character with a number, if there is one. -/
def charOfNumber? (n : Nat) : Option Char :=
  if h : n.isValidChar then some (Char.ofNatAux n h) else none

/-! ### Quotations -/

/-- The hexadecimal digits of a number, lower case and without leading zeros. -/
def hexDigits (n : Nat) : List Char :=
  Nat.toDigits 16 n

/-- How one character is written inside a quotation: the usual control characters by letter, and
what would not be seen by number. -/
def quotedChar (c : Char) : List Char :=
  if c == '\x00' then ['\\', '0']
  else if c == '\t' then ['\\', 't']
  else if c == '\r' then ['\\', 'r']
  else if c == '\n' then ['\\', 'n']
  else if c == '\\' || c == '"' then ['\\', c]
  else if isJoining c || isInvisible c then
    ['\\', 'u', '\x7b'] ++ hexDigits c.toNat ++ ['\x7d']
  else [c]

/-- The text between double quotes, with the characters that need it escaped. -/
def quoted (s : String) : String :=
  String.ofList ('"' :: s.toList.flatMap quotedChar ++ ['"'])

/-! ### Pieces -/

/-- Splits off as many characters as fill the given number of bytes. -/
def splitBytes : Nat → List Char → List Char × List Char
  | 0, cs => ([], cs)
  | _ + 1, [] => ([], [])
  | n + 1, c :: rest =>
    let (front, back) := splitBytes (n + 1 - c.utf8Size) rest
    (c :: front, back)

/-- The pieces of a list of characters between the separators, one more than there are
separators. -/
def splitAt (separator : Char) (cs : List Char) : List (List Char) :=
  cs.splitOn separator

/-- The characters with each occurrence of a piece replaced, after `skipped` of them are left
out.  The occurrences are found from left to right, and do not overlap. -/
def replaceFrom (piece replacement : List Char) : Nat → List Char → List Char
  | _, [] => []
  | skipped + 1, _ :: rest => replaceFrom piece replacement skipped rest
  | 0, c :: rest =>
    if !piece.isEmpty && piece.isPrefixOf (c :: rest) then
      replacement ++ replaceFrom piece replacement (piece.length - 1) rest
    else c :: replaceFrom piece replacement 0 rest

/-- The text with each occurrence of a piece replaced. -/
def replaceAll (piece replacement s : String) : String :=
  String.ofList (replaceFrom piece.toList replacement.toList 0 s.toList)

end ConfigTemplate.Text
