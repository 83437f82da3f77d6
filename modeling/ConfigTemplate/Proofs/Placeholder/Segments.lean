import ConfigTemplate.Pattern.Reader
import ConfigTemplate.Proofs.Placeholder.ByteScan

/-!
# Placeholder names as segments

Reading a name from left to right comes to the same as looking at its segments, the pieces of the
name between its underscores: `isPlaceholderName_iff`.  It also comes to the same as looking for a
pattern in it, since the progress of the name tells what is left of the pattern:
`occursIn_pattern`.  Both are put together in `name_grammar`.
-/

namespace ConfigTemplate

namespace PlaceholderName

/-! ### Segments -/

/-- A first segment starts with a capital letter and goes on with capital letters and digits. -/
def IsFirstSegment : List Char → Prop
  | [] => False
  | c :: rest => c.isUpper = true ∧ ∀ d ∈ rest, d.isUpper = true ∨ d.isDigit = true

/-- A further segment is made of letters and digits, at least one. -/
def IsFurtherSegment (segment : List Char) : Prop :=
  segment ≠ [] ∧ ∀ c ∈ segment, c.isAlphanum = true

/-- The pieces are a first segment and any number of further ones. -/
def AreSegments : List (List Char) → Prop
  | [] => False
  | first :: further => IsFirstSegment first ∧ ∀ segment ∈ further, IsFurtherSegment segment

/-- The segment that is being read goes on with the piece. -/
def Progress.GoesOn : Progress → List Char → Prop
  | .none, piece => IsFirstSegment piece
  | .first, piece => ∀ c ∈ piece, c.isUpper = true ∨ c.isDigit = true
  | .underscore, piece => IsFurtherSegment piece
  | .further, piece => ∀ c ∈ piece, c.isAlphanum = true

/-- The segment that is being read goes on with the first piece, and the others are further
segments. -/
def Progress.GoesOnWith (progress : Progress) : List (List Char) → Prop
  | [] => False
  | piece :: later => progress.GoesOn piece ∧ ∀ segment ∈ later, IsFurtherSegment segment

theorem goesOn_nil_iff (progress : Progress) :
  progress.GoesOn [] ↔ progress.complete = true
  := by
  cases progress <;>
    simp [Progress.GoesOn, Progress.complete, IsFirstSegment, IsFurtherSegment]

/-- Within a segment one character is read after the other. -/
theorem goesOn_cons_iff {progress : Progress} {c : Char} {piece : List Char} (ne : c ≠ '_') :
  progress.GoesOn (c :: piece) ↔ ∃ next, step progress c = some next ∧ next.GoesOn piece
  := by
  cases progress with
  | none =>
    by_cases allowed : c.isUpper = true <;>
      simp [Progress.GoesOn, IsFirstSegment, step, allowed]
  | first =>
    by_cases allowed : c.isUpper = true ∨ c.isDigit = true <;>
      simp [Progress.GoesOn, step, allowed, ne]
  | underscore =>
    by_cases allowed : c.isAlphanum = true <;>
      simp [Progress.GoesOn, IsFurtherSegment, step, allowed]
  | further =>
    by_cases allowed : c.isAlphanum = true <;>
      simp [Progress.GoesOn, step, allowed, ne]

/-- An underscore stands behind a segment that is complete. -/
theorem step_underscore (progress : Progress) :
  step progress '_' = if progress.complete then some .underscore else none
  := by cases progress <;> rfl

/-- A name is completed by the rest of its segment and by further segments. -/
theorem completes_iff (progress : Progress) (cs : List Char) :
  completes progress cs = true ↔ progress.GoesOnWith (cs.splitOn '_')
  := by
  induction cs generalizing progress with
  | nil => simp [completes, Progress.GoesOnWith, goesOn_nil_iff]
  | cons c rest ih =>
    obtain ⟨piece, further, pieces⟩ := List.exists_cons_of_ne_nil (List.splitOn_ne_nil '_' rest)
    simp only [pieces, Progress.GoesOnWith] at ih
    rw [completes, List.splitOn_cons_eq_if_modifyHead, pieces]
    by_cases separates : c = '_'
    · have later : completes .underscore rest = true
          ↔ ∀ segment ∈ piece :: further, IsFurtherSegment segment :=
        (ih .underscore).trans List.forall_mem_cons.symm
      simp only [separates, beq_self_eq_true, if_true, step_underscore, Progress.GoesOnWith,
        goesOn_nil_iff, ← later]
      cases progress.complete <;> simp
    · simp only [beq_iff_eq, separates, if_false, List.modifyHead_cons, Progress.GoesOnWith,
        goesOn_cons_iff separates]
      cases step progress c with
      | none => simp
      | some next => simp [ih]

end PlaceholderName

open PlaceholderName

/-- A name is a first segment and any number of further ones, with an underscore between each
two. -/
theorem isPlaceholderName_iff (cs : List Char) :
  isPlaceholderName cs = true ↔ AreSegments (cs.splitOn '_')
  := completes_iff .none cs

/-! ### The pattern of names -/

namespace PlaceholderName

/-- Capital letters. -/
def capitals : CharSet := .union .nothing (.range 'A' 'Z')

/-- Capital letters and digits. -/
def capitalsAndDigits : CharSet := .union capitals (.range '0' '9')

/-- Letters and digits. -/
def lettersAndDigits : CharSet := .union (.union capitals (.range 'a' 'z')) (.range '0' '9')

/-- Any number of further segments, each behind an underscore. -/
def furtherSegments : Pattern :=
  .repeated (.append (.char (.single '_')) (.repeated (.char lettersAndDigits) 1 none)) 0 none

/-- What stands behind the capital letter at the start of a name. -/
def afterCapital : Pattern :=
  .append (.repeated (.char capitalsAndDigits) 0 none)
    (.append furtherSegments (.assertion .textEnd))

/-- What the characters follow that complete a name after some progress. -/
def Progress.remaining : Progress → Pattern
  | .none => .append (.char capitals) afterCapital
  | .first => afterCapital
  | .underscore =>
    .append (.append (.repeated (.char lettersAndDigits) 1 Option.none) furtherSegments)
      (.assertion .textEnd)
  | .further =>
    .append (.append (.repeated (.char lettersAndDigits) 0 Option.none) furtherSegments)
      (.assertion .textEnd)

/-- What names follow. -/
def pattern : Pattern := .append (.assertion .textStart) Progress.none.remaining

theorem ofText_pattern :
  Pattern.ofText "^[A-Z][A-Z0-9]*(?:_[A-Za-z0-9]+)*$" = .ok pattern
  := by decide +kernel

theorem contains_capitals (c : Char) :
  capitals.contains c = c.isUpper
  := by
  unfold capitals Char.isUpper
  simp only [CharSet.contains, Bool.false_or, Char.le_def, Bool.decide_and, ge_iff_le]

theorem contains_capitalsAndDigits (c : Char) :
  capitalsAndDigits.contains c = (c.isUpper || c.isDigit)
  := by
  unfold capitalsAndDigits Char.isDigit
  simp only [CharSet.contains, contains_capitals, Char.le_def, ge_iff_le]

theorem contains_lettersAndDigits (c : Char) :
  lettersAndDigits.contains c = c.isAlphanum
  := by
  unfold lettersAndDigits Char.isAlphanum Char.isAlpha Char.isLower Char.isDigit
  simp only [CharSet.contains, contains_capitals, Char.le_def, ge_iff_le]

theorem contains_underscore (c : Char) :
  (CharSet.single '_').contains c = (c == '_')
  := by
  rw [Bool.eq_iff_iff]
  simp only [CharSet.single, CharSet.contains, Bool.and_eq_true, decide_eq_true_eq, beq_iff_eq]
  constructor
  · rintro ⟨low, high⟩
    exact Char.le_antisymm high low
  · rintro rfl
    exact ⟨Char.le_refl _, Char.le_refl _⟩

theorem derivatives_append (p q : Pattern) (s : Surrounding) (c : Char) :
  (p.append q).derivatives s c
    = (p.derivatives s c).map (·.andThen q)
      ++ if p.matchesEmpty s then q.derivatives s c else []
  := rfl

/-- Of a run of characters the rest of the run is left. -/
theorem derivatives_run (set : CharSet) (least : Nat) (s : Surrounding) (c : Char) :
  (Pattern.repeated (.char set) least none).derivatives s c
    = if set.contains c then [.repeated (.char set) (least - 1) none] else []
  := by
  simp only [Pattern.derivatives, Pattern.matchesEmpty]
  cases set.contains c <;> rfl

/-- Behind an underscore there is a segment and then any number of them. -/
theorem derivatives_furtherSegments (s : Surrounding) (c : Char) :
  furtherSegments.derivatives s c
    = if c == '_' then
        [.append (.repeated (.char lettersAndDigits) 1 none) furtherSegments]
      else []
  := by
  simp only [furtherSegments, Pattern.derivatives, Pattern.matchesEmpty, contains_underscore]
  cases c == '_' <;> rfl

/-- Nothing has to remain at the end of the text if the name is complete. -/
theorem matchesEmpty_remaining (progress : Progress) (s : Surrounding) :
  progress.remaining.matchesEmpty s = (progress.complete && s.next.isNone)
  := by cases progress <;> rfl

/-- A character of a name leaves of the pattern what the progress behind it says. -/
theorem derivatives_remaining (progress : Progress) (s : Surrounding) (c : Char) :
  progress.remaining.derivatives s c = ((step progress c).map Progress.remaining).toList
  := by
  by_cases separates : c = '_'
  · subst separates
    cases progress <;> rfl
  · -- only an underscore starts a further segment, so the character belongs to the one being read
    have noFurther : furtherSegments.derivatives s c = [] := by
      rw [derivatives_furtherSegments, if_neg (by simpa using separates)]
    cases progress with
    | none =>
      simp only [Progress.remaining, Pattern.derivatives, Pattern.matchesEmpty, contains_capitals,
        step]
      cases c.isUpper <;> rfl
    | first =>
      simp only [Progress.remaining, afterCapital, derivatives_append, derivatives_run, noFurther,
        contains_capitalsAndDigits, step, beq_eq_false_iff_ne.2 separates]
      cases c.isUpper || c.isDigit <;> rfl
    | underscore =>
      simp only [Progress.remaining, derivatives_append, derivatives_run, noFurther,
        contains_lettersAndDigits, step]
      cases c.isAlphanum <;> rfl
    | further =>
      simp only [Progress.remaining, derivatives_append, derivatives_run, noFurther,
        contains_lettersAndDigits, step, beq_eq_false_iff_ne.2 separates]
      cases c.isAlphanum <;> rfl

/-- No name is empty. -/
theorem matchesEmpty_pattern (s : Surrounding) :
  pattern.matchesEmpty s = false
  := by rw [pattern, Pattern.matchesEmpty, matchesEmpty_remaining, Progress.complete,
    Bool.false_and, Bool.and_false]

/-- A name starts where the text does. -/
theorem derivatives_pattern (previous : Option Char) (c : Char) :
  pattern.derivatives ⟨previous, some c⟩ c
    = if previous.isNone then ((step .none c).map Progress.remaining).toList else []
  := by
  rw [pattern, derivatives_append, derivatives_remaining]
  rfl

theorem completes_cons (progress : Progress) (c : Char) (rest : List Char) :
  completes progress (c :: rest) = (step progress c).any (completes · rest)
  := by
  rw [completes]
  cases step progress c <;> rfl

/-- The pattern does not remain of itself. -/
theorem eraseDups_pattern (read : Option Progress) :
  (pattern :: (read.map Progress.remaining).toList).eraseDups
    = pattern :: (read.map Progress.remaining).toList
  := by
  cases read with
  | none => rfl
  | some progress => cases progress <;> decide

/-- Behind the characters of a text that make some progress of a name, or none, the pattern is found
if the other characters complete the name. -/
theorem occursFrom_pattern (read : Option Progress) (previous : Char) (cs : List Char) :
  pattern.occursFrom (some previous) (read.map Progress.remaining).toList cs
    = read.any (completes · cs)
  := by
  induction cs generalizing previous read with
  | nil =>
    rw [Pattern.occursFrom, List.any_cons, matchesEmpty_pattern, Bool.false_or]
    cases read with
    | none => rfl
    | some progress => simp [matchesEmpty_remaining, completes]
  | cons c rest ih =>
    rw [Pattern.occursFrom, eraseDups_pattern, List.any_cons, matchesEmpty_pattern,
      List.flatMap_cons, derivatives_pattern]
    cases read with
    | none => exact ih none c
    | some progress =>
      have later := ih (step progress c) c
      simpa [matchesEmpty_remaining, derivatives_remaining, completes_cons] using later

end PlaceholderName

/-- The pattern of names is found in a text exactly if the text is a name. -/
theorem occursIn_pattern (s : String) :
  pattern.occursIn s = isPlaceholderName s.toList
  := by
  rw [Pattern.occursIn, isPlaceholderName]
  cases s.toList with
  | nil => rfl
  | cons c rest =>
    have alone : [pattern].eraseDups = [pattern] := eraseDups_pattern none
    rw [Pattern.occursFrom, alone, completes_cons, ← occursFrom_pattern (step .none c) c,
      List.any_cons, matchesEmpty_pattern, List.flatMap_cons, derivatives_pattern]
    simp

/-! ### The grammar -/

namespace PlaceholderName

/-- No segment is empty. -/
theorem ne_nil_of_areSegments {pieces : List (List Char)} (segments : AreSegments pieces) :
  ∀ segment ∈ pieces, segment ≠ []
  := by
  cases pieces with
  | nil => contradiction
  | cons first further =>
    obtain ⟨isFirst, areFurther⟩ := segments
    rw [List.forall_mem_cons]
    constructor
    · rintro rfl
      contradiction
    · intro segment mem
      exact (areFurther segment mem).1

/-- A further segment can be put behind others. -/
theorem AreSegments.append {pieces : List (List Char)} {segment : List Char}
    (segments : AreSegments pieces) (isFurther : IsFurtherSegment segment) :
  AreSegments (pieces ++ [segment])
  := by
  cases pieces with
  | nil => contradiction
  | cons first further =>
    obtain ⟨isFirst, areFurther⟩ := segments
    refine ⟨isFirst, ?_⟩
    intro other mem
    rcases List.mem_append.1 mem with mem | mem
    · exact areFurther other mem
    · rw [List.mem_singleton.1 mem]
      exact isFurther

/-- Letters and digits are no separators. -/
theorem splitOn_of_isAlphanum {cs : List Char} (letters : ∀ c ∈ cs, c.isAlphanum = true) :
  cs.splitOn '_' = [cs]
  := by
  apply List.splitOn_eq_singleton
  intro mem
  exact absurd (letters '_' mem) (by decide)

end PlaceholderName

/-- On neither side of an underscore a name has an empty piece. -/
theorem nil_not_mem_of_isPlaceholderName (front back : List Char)
    (isName : isPlaceholderName (front ++ '_' :: back) = true) :
  [] ∉ front.splitOn '_' ∧ [] ∉ back.splitOn '_'
  := by
  rw [isPlaceholderName_iff, List.splitOn_append_cons_self] at isName
  have nonempty := ne_nil_of_areSegments isName
  constructor
  · intro mem
    exact nonempty [] (List.mem_append_left _ mem) rfl
  · intro mem
    exact nonempty [] (List.mem_append_right _ mem) rfl

/-- No underscore of a name stands at its start, at its end or beside another one. -/
theorem underscores_of_isPlaceholderName {cs : List Char} (isName : isPlaceholderName cs = true) :
  ¬['_'] <+: cs ∧ ¬['_'] <:+ cs ∧ ¬['_', '_'] <:+: cs
  := by
  refine ⟨?_, ?_, ?_⟩
  · rintro ⟨back, rfl⟩
    obtain ⟨before, -⟩ := nil_not_mem_of_isPlaceholderName [] back isName
    exact before (by simp)
  · rintro ⟨front, rfl⟩
    obtain ⟨-, behind⟩ := nil_not_mem_of_isPlaceholderName front [] isName
    exact behind (by simp)
  · rintro ⟨front, back, rfl⟩
    rw [List.append_assoc] at isName
    obtain ⟨-, behind⟩ := nil_not_mem_of_isPlaceholderName front ('_' :: back) isName
    exact behind (by simp [List.splitOn_cons_eq_if_modifyHead])

/-- **The grammar of names.**  A text is a name exactly if its pieces between the underscores are
a first segment and further ones, which is also what the pattern of names describes.  So no
underscore of a name stands at the start, at the end or beside another one, and all characters are
ASCII and on one line; and a name stays one if a further segment is put behind it. -/
theorem name_grammar (s : String) :
  (isPlaceholderName s.toList = true ↔ AreSegments (s.toList.splitOn '_')) ∧
  (∃ p, Pattern.ofText "^[A-Z][A-Z0-9]*(?:_[A-Za-z0-9]+)*$" = .ok p
    ∧ p.occursIn s = isPlaceholderName s.toList) ∧
  (isPlaceholderName s.toList = true →
    (¬['_'] <+: s.toList ∧ ¬['_'] <:+ s.toList ∧ ¬['_', '_'] <:+: s.toList) ∧
    (∀ c ∈ s.toList, c ≠ '\n' ∧ c.toNat < 0x80) ∧
    ∀ tail : String, tail ≠ "" → (∀ c ∈ tail.toList, c.isAlphanum = true) →
      isPlaceholderName (s ++ "_" ++ tail).toList = true)
  := by
  refine ⟨isPlaceholderName_iff _, ⟨pattern, ofText_pattern, occursIn_pattern s⟩, ?_⟩
  intro isName
  refine ⟨underscores_of_isPlaceholderName isName, ?_, ?_⟩
  · intro c mem
    have inWord := continuesWord_of_completes isName c mem
    refine ⟨?_, ofAscii_continuesWord c inWord⟩
    rintro rfl
    contradiction
  · intro tail nonempty letters
    have isFurther : IsFurtherSegment tail.toList := ⟨by simpa using nonempty, letters⟩
    have chars : (s ++ "_" ++ tail).toList = s.toList ++ '_' :: tail.toList := by simp
    rw [isPlaceholderName_iff] at isName ⊢
    rw [chars, List.splitOn_append_cons_self, splitOn_of_isAlphanum letters]
    exact isName.append isFurther

end ConfigTemplate
