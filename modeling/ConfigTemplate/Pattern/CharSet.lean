import ConfigTemplate.Text.Alphanumeric
import ConfigTemplate.Text.Basic
import ConfigTemplate.Text.UpperCase

/-!
# Sets of characters

Sets are built from ranges and from properties by the operations on sets.  A set can also be
closed under the difference between small and capital letters.
-/

namespace ConfigTemplate

namespace Text

/-- The character whose single-character mapping to upper case a character shares with its
variants.  The dotless i stands alone, since its mapping meets that of another letter, and four
capitals stand with the letters that they are variants of. -/
def caseBase (c : Char) : Char :=
  if c.toNat < 0x80 then c.toUpper
  else if c == '\u0131' then c
  else if c == '\u212a' then 'K'
  else if c == '\u212b' then '\u00c5'
  else if c == '\u2126' then '\u03a9'
  else if c == '\u1e9e' then '\u00df'
  else
    match upperRuns.find? (·.covers c.toNat) with
    | some run => Char.ofNat (c.toNat + run.distance).toNat
    | none => c

/-- The characters that differ from a character in case only, that character among them. -/
def caseVariants (c : Char) : List Char :=
  let base := caseBase c
  let lower := upperRuns.filterMap fun run =>
    let code := ((base.toNat : Int) - run.distance).toNat
    if run.covers code then some (Char.ofNat code) else none
  ([c, base, base.toLower, '\u212a', '\u212b', '\u2126', '\u1e9e'] ++ lower).filter
    (caseBase · == base)

end Text

/-- The properties by which a set may be given. -/
inductive CharProperty where
  | alphabetic
  | uppercase
  | lowercase
  | decimal
  | numeric
  | blank
  | word
deriving DecidableEq

/-- Whether a character has a property. -/
def CharProperty.holds : CharProperty → Char → Bool
  | .alphabetic, c => Text.isAlphabetic c
  | .uppercase, c =>
    Text.isAlphabetic c && Text.caseBase c == c && (Text.caseVariants c).any (· != c)
  | .lowercase, c => Text.isAlphabetic c && Text.caseBase c != c
  | .decimal, c => Text.isDecimal c
  | .numeric, c => Text.isNumeric c
  | .blank, c => Text.isBlank c
  | .word, c => Text.isWordCharacter c

/-- A set of characters. -/
inductive CharSet where
  | nothing
  /-- The characters from the first to the last, both included. -/
  | range (first last : Char)
  | having (property : CharProperty)
  | union (a b : CharSet)
  | intersection (a b : CharSet)
  | complement (a : CharSet)
  /-- The set together with the characters that differ from one in it in case only. -/
  | caseless (a : CharSet)
deriving DecidableEq

namespace CharSet

/-- Whether a character is in a set. -/
def contains : CharSet → Char → Bool
  | .nothing, _ => false
  | .range first last, c => first ≤ c && c ≤ last
  | .having property, c => property.holds c
  | .union a b, c => a.contains c || b.contains c
  | .intersection a b, c => a.contains c && b.contains c
  | .complement a, c => !a.contains c
  | .caseless a, c => (Text.caseVariants c).any a.contains

/-- The set of one character. -/
def single (c : Char) : CharSet := .range c c

/-- The union of ranges. -/
def ofRanges (ranges : List (Char × Char)) : CharSet :=
  ranges.foldr (fun (first, last) s => .union (.range first last) s) .nothing

/-- All characters. -/
def everything : CharSet := .complement .nothing

/-- The characters of one set that are not in another. -/
def difference (a b : CharSet) : CharSet := .intersection a (.complement b)

/-- The characters that are in one of two sets only. -/
def symmetricDifference (a b : CharSet) : CharSet := .union (difference a b) (difference b a)

/-- The set, or all that is not in it. -/
def negatedIf (negated : Bool) (a : CharSet) : CharSet := if negated then .complement a else a

/-- The characters of ASCII. -/
def ascii : CharSet := .range '\x00' '\x7f'

/-- The ASCII digits. -/
def asciiDigit : CharSet := .range '0' '9'

/-- The blank ASCII characters. -/
def asciiBlank : CharSet := ofRanges [('\t', '\r'), (' ', ' ')]

/-- The ASCII characters of words. -/
def asciiWord : CharSet := ofRanges [('0', '9'), ('A', 'Z'), ('_', '_'), ('a', 'z')]

/-- The ASCII classes by their names. -/
def asciiClass? (name : String) : Option CharSet :=
  [("alnum", ofRanges [('0', '9'), ('A', 'Z'), ('a', 'z')]),
    ("alpha", ofRanges [('A', 'Z'), ('a', 'z')]),
    ("ascii", ascii),
    ("blank", ofRanges [('\t', '\t'), (' ', ' ')]),
    ("cntrl", ofRanges [('\x00', '\x1f'), ('\x7f', '\x7f')]),
    ("digit", asciiDigit),
    ("graph", .range '!' '~'),
    ("lower", .range 'a' 'z'),
    ("print", .range ' ' '~'),
    ("punct", ofRanges [('!', '/'), (':', '@'), ('[', '\x60'), ('\x7b', '~')]),
    ("space", asciiBlank),
    ("upper", .range 'A' 'Z'),
    ("word", asciiWord),
    ("xdigit", ofRanges [('0', '9'), ('A', 'F'), ('a', 'f')])].lookup name

/-- A name of a property as it is looked up: small letters, no separators, and no `is` in
front. -/
def propertyKey (name : String) : String :=
  let kept := (name.toList.filter fun c => c != ' ' && c != '_' && c != '-').map Char.toLower
  match kept with
  | 'i' :: 's' :: rest => if rest.isEmpty then "is" else String.ofList rest
  | _ => String.ofList kept

/-- The sets that may be given by the name of a property. -/
def named? (name : String) : Option CharSet :=
  let property (p : CharProperty) (names : List String) : List (String × CharSet) :=
    names.map fun name => (name, .having p)
  (property .alphabetic ["l", "letter", "alphabetic", "alpha"]
    ++ property .uppercase ["lu", "uppercaseletter", "uppercase", "upper"]
    ++ property .lowercase ["ll", "lowercaseletter", "lowercase", "lower"]
    ++ property .decimal ["nd", "decimalnumber", "digit"]
    ++ property .numeric ["n", "number"]
    ++ property .blank ["whitespace", "wspace", "space"]
    ++ [("any", everything), ("ascii", ascii)]).lookup (propertyKey name)

end CharSet

end ConfigTemplate
