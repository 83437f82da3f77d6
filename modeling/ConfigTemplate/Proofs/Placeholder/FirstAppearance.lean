import ConfigTemplate.Placeholder.Occurrence
import Mathlib.Data.List.Basic

/-!
# Names in the order of their first appearance

Listing names without repetitions keeps each one where it appears first.  Leaving some of the names
out does not change the order of the others.
-/

namespace ConfigTemplate

/-- The names of a list, each once, in the order in which they first appear. -/
structure FirstAppearance (all names : List String) : Prop where
  mem_iff : ∀ name, name ∈ names ↔ name ∈ all
  ordered : names.Pairwise fun a b => all.idxOf a < all.idxOf b

/-- Two names that are kept stay in their order when others are left out. -/
theorem idxOf_filter_lt {keep : String → Bool} {a b : String} (ha : keep a = true)
    (hb : keep b = true) (all : List String) :
  (all.filter keep).idxOf a < (all.filter keep).idxOf b ↔ all.idxOf a < all.idxOf b
  := by
  induction all with
  | nil => rfl
  | cons name rest ih =>
    cases kept : keep name with
    | true => simp only [List.filter_cons_of_pos kept, List.idxOf_cons]; grind
    | false =>
      have notA : name ≠ a := by rintro rfl; simp [ha] at kept
      have notB : name ≠ b := by rintro rfl; simp [hb] at kept
      simp [kept, List.idxOf_cons_ne _ notA, List.idxOf_cons_ne _ notB, ih]

namespace FirstAppearance

/-- Leaving names out of a list leaves them out of its names. -/
theorem filter {all names : List String} (h : FirstAppearance all names) (keep : String → Bool) :
  FirstAppearance (all.filter keep) (names.filter keep)
  := by
  constructor
  · intro name
    rw [List.mem_filter, List.mem_filter, h.mem_iff]
  · rw [List.pairwise_filter]
    apply h.ordered.imp
    intro a b less ha hb
    exact (idxOf_filter_lt ha hb all).2 less

/-- A new name in front comes first. -/
theorem cons {all names : List String} {name : String}
    (h : FirstAppearance (all.filter (!· == name)) names) :
  FirstAppearance (name :: all) (name :: names)
  := by
  have others : ∀ other ∈ names, other ∈ all ∧ name ≠ other := by
    intro other mem
    have := (h.mem_iff other).1 mem
    simp only [List.mem_filter, Bool.not_eq_true', beq_eq_false_iff_ne] at this
    exact ⟨this.1, this.2.symm⟩
  constructor
  · intro other
    rw [List.mem_cons, List.mem_cons, h.mem_iff, List.mem_filter]
    by_cases same : other = name <;> simp [same]
  · refine List.pairwise_cons.2 ⟨?_, ?_⟩
    · intro other mem
      rw [List.idxOf_cons_self, List.idxOf_cons_ne _ (others other mem).2]
      apply Nat.succ_pos
    · apply h.ordered.imp_of_mem
      intro a b memA memB less
      rw [List.idxOf_cons_ne _ (others a memA).2, List.idxOf_cons_ne _ (others b memB).2]
      apply Nat.succ_lt_succ
      apply (idxOf_filter_lt _ _ all).1 less
      · simpa using (others a memA).2.symm
      · simpa using (others b memB).2.symm

end FirstAppearance

/-- The names of a list without repetitions are in the order of their first appearance. -/
theorem firstAppearance_eraseDups :
    ∀ all : List String, FirstAppearance all all.eraseDups
  | [] => ⟨fun _ => Iff.rfl, .nil⟩
  | name :: rest => by
    have := List.length_filter_le (!· == name) rest
    rw [List.eraseDups_cons]
    apply FirstAppearance.cons
    apply firstAppearance_eraseDups
termination_by all => all.length
decreasing_by
  simp only [List.length_cons]
  omega

/-- The distinct names of occurrences are in the order of their first appearance. -/
theorem firstAppearance_distinctNames (occurrences : List Occurrence) :
  FirstAppearance (occurrences.map (·.name)) (distinctNames occurrences)
  := firstAppearance_eraseDups _

end ConfigTemplate
