import ConfigTemplate.Proofs.Placeholder.TidyRow

/-!
# Placeholder names as words

A placeholder name is one word that starts with a capital letter.  So no word of JSON is a
placeholder name.
-/

namespace ConfigTemplate

namespace PlaceholderName

theorem continuesWord_of_step {progress next : Progress} {c : Char}
    (h : step progress c = some next) :
  Lexeme.continuesWord c = true
  := by
  have letter : c.isAlpha = (c.isUpper || c.isLower) := rfl
  cases progress <;> simp only [step] at h <;> grind [Lexeme.continuesWord, Char.isAlphanum]

theorem continuesWord_of_completes {progress : Progress} {cs : List Char}
    (h : completes progress cs = true) :
  ∀ c ∈ cs, Lexeme.continuesWord c = true
  := by
  induction cs generalizing progress with
  | nil => nofun
  | cons c rest ih =>
    rw [completes] at h
    split at h
    · next next stepped =>
      rw [List.forall_mem_cons]
      exact ⟨continuesWord_of_step stepped, ih h⟩
    · simp at h

end PlaceholderName

/-- A placeholder name starts with a capital letter. -/
theorem exists_cons_of_isPlaceholderName {name : List Char} (h : isPlaceholderName name = true) :
  ∃ c rest, name = c :: rest ∧ c.isUpper = true
  := by
  cases name with
  | nil =>
    simp [isPlaceholderName, PlaceholderName.completes, PlaceholderName.Progress.complete] at h
  | cons c rest =>
    refine ⟨c, rest, rfl, ?_⟩
    by_contra lower
    simp [isPlaceholderName, PlaceholderName.completes, PlaceholderName.step, lower] at h

/-- A placeholder name is one word. -/
theorem proper_word_of_isPlaceholderName {name : List Char} (h : isPlaceholderName name = true) :
  (Lexeme.word name).Proper
  := by
  obtain ⟨c, rest, rfl, upper⟩ := exists_cons_of_isPlaceholderName h
  apply Lexeme.Proper.word
  · unfold Lexeme.startsWord Char.isAlpha
    simp [upper]
  · intro d mem
    exact PlaceholderName.continuesWord_of_completes h d (List.mem_cons_of_mem c mem)

/-- No word of JSON is a placeholder name. -/
theorem isPlaceholderName_of_isKeyword {cs : List Char} (h : isKeyword cs = true) :
  isPlaceholderName cs = false
  := by
  simp only [isKeyword, Bool.or_eq_true, beq_iff_eq] at h
  rcases h with (rfl | rfl) | rfl <;> decide

end ConfigTemplate
