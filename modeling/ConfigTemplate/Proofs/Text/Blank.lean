import ConfigTemplate.Proofs.Placeholder.TidyRow
import ConfigTemplate.Text.Basic
import Mathlib.Data.List.TakeWhile

/-!
# Blanks around a text

Trimming takes a text apart into what it keeps and the blanks around that, and this is the only way
to do so: `trimChars_append` and `exists_blanks_trimChars`.
-/

namespace ConfigTemplate.Text

/-- All characters are blank. -/
def Blank (cs : List Char) : Prop := ∀ c ∈ cs, isBlank c = true

/-- Neither the first nor the last character is blank. -/
structure Trimmed (cs : List Char) : Prop where
  first : ∀ c ∈ cs.head?, isBlank c = false
  last : ∀ c ∈ cs.getLast?, isBlank c = false

theorem Trimmed.of_visible {cs : List Char} (visible : ∀ c ∈ cs, isBlank c = false) :
  Trimmed cs
  := by
  constructor
  · intro c first
    apply visible c
    apply List.mem_of_mem_head? first
  · intro c last
    apply visible c
    apply List.mem_of_mem_getLast? last

theorem trimChars_append {front core back : List Char} (blankFront : Blank front)
    (trimmed : Trimmed core) (blankBack : Blank back) :
  trimChars (front ++ core ++ back) = core
  := by
  have blankReversed : Blank back.reverse := by
    intro c mem
    apply blankBack c
    apply List.mem_reverse.1 mem
  rw [trimChars, List.append_assoc]
  cases core with
  | nil =>
    have all : Blank (front ++ back) := List.forall_mem_append.2 ⟨blankFront, blankBack⟩
    rw [List.nil_append, List.dropWhile_eq_nil_iff.2 all]
    rfl
  | cons c rest =>
    have lastFirst : ∀ d ∈ (c :: rest).reverse.head?, isBlank d = false := by
      rw [List.head?_reverse]
      apply trimmed.last
    rw [(span_append blankFront (by simpa using trimmed.first)).2, List.reverse_append,
      (span_append blankReversed lastFirst).2, List.reverse_reverse]

theorem exists_blanks_trimChars (cs : List Char) :
  ∃ front back, cs = front ++ trimChars cs ++ back ∧ Blank front ∧ Blank back
  := by
  refine ⟨cs.takeWhile isBlank,
    ((cs.dropWhile isBlank).reverse.takeWhile isBlank).reverse, ?_, ?_, ?_⟩
  · rw [trimChars, List.append_assoc, ← List.reverse_append, List.takeWhile_append_dropWhile,
      List.reverse_reverse, List.takeWhile_append_dropWhile]
  · intro c mem
    apply List.mem_takeWhile_imp mem
  · intro c mem
    apply List.mem_takeWhile_imp (List.mem_reverse.1 mem)

theorem trimmed_trimChars (cs : List Char) :
  Trimmed (trimChars cs)
  := by
  have kept : trimChars cs <+: cs.dropWhile isBlank := by
    rw [trimChars, ← List.reverse_suffix, List.reverse_reverse]
    apply List.dropWhile_suffix
  constructor
  · intro c first
    obtain ⟨rest, shape⟩ := List.head?_eq_some_iff.1 first
    obtain ⟨back, whole⟩ := kept
    have notBlank := List.head?_dropWhile_not isBlank cs
    rw [← whole, shape] at notBlank
    exact notBlank
  · intro c last
    have notBlank := List.head?_dropWhile_not isBlank (cs.dropWhile isBlank).reverse
    rw [trimChars, List.getLast?_reverse] at last
    rw [last] at notBlank
    exact notBlank

theorem trimChars_eq_self {cs : List Char} (trimmed : Trimmed cs) :
  trimChars cs = cs
  := by
  have none : Blank [] := List.forall_mem_nil _
  have whole := trimChars_append none trimmed none
  rwa [List.nil_append, List.append_nil] at whole

theorem trim_eq_self {s : String} (trimmed : Trimmed s.toList) :
  trim s = s
  := by
  rw [trim, trimChars_eq_self trimmed, String.ofList_toList]

theorem trim_trim (s : String) :
  trim (trim s) = trim s
  := by
  apply trim_eq_self
  rw [trim, String.toList_ofList]
  apply trimmed_trimChars

/-- Trimming leaves something of a text that is not blank. -/
theorem isBlankText_trim (s : String) :
  isBlankText (trim s) = isBlankText s
  := by
  obtain ⟨front, back, shape, blankFront, blankBack⟩ := exists_blanks_trimChars s.toList
  rw [isBlankText, isBlankText, trim, String.toList_ofList]
  conv_rhs => rw [shape]
  rw [List.all_append, List.all_append, List.all_eq_true.2 blankFront, List.all_eq_true.2 blankBack,
    Bool.true_and, Bool.and_true]

/-- A text between blanks is what trimming leaves. -/
theorem trim_append {front back : String} {core : List Char} (blankFront : Blank front.toList)
    (trimmed : Trimmed core) (blankBack : Blank back.toList) :
  trim (front ++ String.ofList core ++ back) = String.ofList core
  := by
  rw [trim, String.toList_append, String.toList_append, String.toList_ofList,
    trimChars_append blankFront trimmed blankBack]

end ConfigTemplate.Text
