/-!
# Placeholder names

A name consists of segments with an underscore between each two.  The first segment starts with a
capital letter and goes on with capital letters and digits; each further segment is made of
letters and digits, at least one.  Only ASCII letters and digits count.
-/

namespace ConfigTemplate

namespace PlaceholderName

/-- How much of a name has been read. -/
inductive Progress where
  /-- Nothing. -/
  | none
  /-- Part of the first segment. -/
  | first
  /-- An underscore, after which a segment has to start. -/
  | underscore
  /-- Part of a further segment. -/
  | further
deriving DecidableEq

/-- Reads one more character of a name, if it may stand there. -/
def step : Progress → Char → Option Progress
  | .none, c => if c.isUpper then some .first else Option.none
  | .first, c =>
    if c.isUpper || c.isDigit then some .first
    else if c == '_' then some .underscore
    else Option.none
  | .underscore, c => if c.isAlphanum then some .further else Option.none
  | .further, c =>
    if c.isAlphanum then some .further
    else if c == '_' then some .underscore
    else Option.none

/-- Whether a name may end after this progress. -/
def Progress.complete : Progress → Bool
  | .first | .further => true
  | .none | .underscore => false

/-- Whether the characters complete a name. -/
def completes : Progress → List Char → Bool
  | progress, [] => progress.complete
  | progress, c :: rest =>
    match step progress c with
    | some next => completes next rest
    | Option.none => false

end PlaceholderName

/-- Whether a list of characters is a placeholder name. -/
def isPlaceholderName (cs : List Char) : Bool :=
  PlaceholderName.completes .none cs

end ConfigTemplate
