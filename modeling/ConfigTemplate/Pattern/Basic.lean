import ConfigTemplate.Pattern.CharSet

/-!
# Patterns

A pattern describes pieces of text.  Whether it occurs in a text is found by reading the text once
from left to right with the list of patterns that the rest of a piece may still follow: the
partial derivatives of the pattern by the characters read so far.
-/

namespace ConfigTemplate

/-- What is on both sides of a place in a text. -/
structure Surrounding where
  previous : Option Char
  next : Option Char

/-- A condition on a place in a text. -/
inductive Assertion where
  | textStart
  | textEnd
  /-- After a line feed, or at the start of the text; `returns` tells whether a carriage return
  ends a line as well. -/
  | lineStart (returns : Bool)
  | lineEnd (returns : Bool)
  /-- On exactly one side there is a character of a set. -/
  | edge (word : CharSet)
  | noEdge (word : CharSet)
  | wordStart (word : CharSet)
  | wordEnd (word : CharSet)
  /-- There is no character of a set in front. -/
  | notAfter (word : CharSet)
  /-- There is no character of a set behind. -/
  | notBefore (word : CharSet)
deriving DecidableEq

/-- Whether a condition holds at a place. -/
def Assertion.holds (s : Surrounding) : Assertion → Bool
  | .textStart => s.previous.isNone
  | .textEnd => s.next.isNone
  | .lineStart false => s.previous.all (· == '\n')
  | .lineStart true =>
    s.previous.all fun c => c == '\n' || (c == '\r' && s.next != some '\n')
  | .lineEnd false => s.next.all (· == '\n')
  | .lineEnd true =>
    s.next.all fun c => c == '\r' || (c == '\n' && s.previous != some '\r')
  | .edge word => s.previous.any word.contains != s.next.any word.contains
  | .noEdge word => s.previous.any word.contains == s.next.any word.contains
  | .wordStart word => !s.previous.any word.contains && s.next.any word.contains
  | .wordEnd word => s.previous.any word.contains && !s.next.any word.contains
  | .notAfter word => !s.previous.any word.contains
  | .notBefore word => !s.next.any word.contains

/-- A description of pieces of text. -/
inductive Pattern where
  /-- The empty piece. -/
  | empty
  /-- One character of a set. -/
  | char (set : CharSet)
  /-- The empty piece at a place where a condition holds. -/
  | assertion (condition : Assertion)
  /-- One piece after the other. -/
  | append (p q : Pattern)
  | either (p q : Pattern)
  /-- Pieces one after the other, at least as many as the one number, at most as many as the
  other. -/
  | repeated (p : Pattern) (least : Nat) (most : Option Nat)
deriving DecidableEq

namespace Pattern

/-- One pattern after the other, where the empty one does not count. -/
def andThen (p q : Pattern) : Pattern :=
  if p = .empty then q else if q = .empty then p else .append p q

/-- Whether the empty piece follows a pattern at a place. -/
def matchesEmpty (s : Surrounding) : Pattern → Bool
  | .empty => true
  | .char _ => false
  | .assertion condition => condition.holds s
  | .append p q => p.matchesEmpty s && q.matchesEmpty s
  | .either p q => p.matchesEmpty s || q.matchesEmpty s
  | .repeated p least _ => least == 0 || p.matchesEmpty s

/-- The patterns that the rest of a piece may follow if its first character is `c`.  A repeated
piece that can be empty here makes all smaller numbers of pieces possible. -/
def derivatives (s : Surrounding) (c : Char) : Pattern → List Pattern
  | .empty | .assertion _ => []
  | .char set => if set.contains c then [.empty] else []
  | .append p q =>
    (p.derivatives s c).map (·.andThen q)
      ++ if p.matchesEmpty s then q.derivatives s c else []
  | .either p q => p.derivatives s c ++ q.derivatives s c
  | .repeated p least most =>
    if most = some 0 then []
    else
      let least := if p.matchesEmpty s then 0 else least - 1
      (p.derivatives s c).map (·.andThen (.repeated p least (most.map (· - 1))))

/-- Whether a piece that follows a pattern starts somewhere in a text, or the rest of one is at
its front; `pending` are the patterns that such a rest may follow. -/
def occursFrom (p : Pattern) (previous : Option Char) (pending : List Pattern) :
    List Char → Bool
  | [] => (p :: pending).any (·.matchesEmpty ⟨previous, none⟩)
  | c :: rest =>
    let here : Surrounding := ⟨previous, some c⟩
    let pending := (p :: pending).eraseDups
    pending.any (·.matchesEmpty here)
      || p.occursFrom (some c) (pending.flatMap (·.derivatives here c)) rest

/-- Whether a piece of a text follows a pattern. -/
def occursIn (p : Pattern) (text : String) : Bool := p.occursFrom none [] text.toList

end Pattern

end ConfigTemplate
