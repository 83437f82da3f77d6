import ConfigTemplate.Proofs.Number.IntegerText

/-!
# Values that texts mean

A value for a placeholder that is not documented is typed by its looks.  A text that means a number
means the one that the domain of numbers reads in it, and so it is with truth values; every other
text is kept as it is.  What a truth value or an integer is written as means that value again, with
any blanks around it: `infer_decided`.
-/

namespace ConfigTemplate

namespace Scalar

/-! ### Words -/

theorem booleanText_inj {b c : Bool} :
  booleanText b = booleanText c ↔ b = c
  := by
  revert b c
  decide

theorem trimmed_booleanText (b : Bool) :
  Text.Trimmed (booleanText b).toList
  := by
  have visible : ((booleanText b).toList.all fun c => !Text.isBlank c) = true := by
    revert b
    decide
  apply Text.Trimmed.of_visible
  simpa using visible

/-- No number is written like a truth value. -/
theorem parse?_booleanText (b : Bool) :
  Number.parse? (booleanText b).toList = none
  := by
  revert b
  decide

theorem parseBoolean?_booleanText (b : Bool) :
  Domain.parseBoolean? (booleanText b) = some b
  := by
  revert b
  decide

/-! ### What a text means -/

variable {raw : String}

/-- Blanks around it apart, a text is the word for a truth value, or else a numeral, or neither. -/
theorem infer_cases (raw : String) :
  (∃ b, Text.trim raw = booleanText b ∧ infer raw = .boolean b)
    ∨ (∃ n, Number.parse? (Text.trim raw).toList = some n ∧ infer raw = .number n)
    ∨ (∀ b, Text.trim raw ≠ booleanText b) ∧ Number.parse? (Text.trim raw).toList = none
      ∧ infer raw = .text raw
  := by
  unfold infer
  dsimp only
  split
  · next word => exact .inl ⟨true, beq_iff_eq.1 word, rfl⟩
  · next notTrue =>
    split
    · next word => exact .inl ⟨false, beq_iff_eq.1 word, rfl⟩
    · next notFalse =>
      cases read : Number.parse? (Text.trim raw).toList with
      | some n => exact .inr (.inl ⟨n, rfl, rfl⟩)
      | none =>
        refine .inr (.inr ⟨Bool.forall_bool.2 ⟨?_, ?_⟩, rfl, rfl⟩)
        · simpa [booleanText] using notFalse
        · simpa [booleanText] using notTrue

theorem infer_eq_boolean_iff {b : Bool} :
  infer raw = .boolean b ↔ Text.trim raw = booleanText b
  := by
  rcases infer_cases raw with ⟨c, word, means⟩ | ⟨n, read, means⟩ | ⟨noWord, read, means⟩
  · rw [means, word, booleanText_inj, boolean.injEq]
  · rw [means]
    constructor
    · nofun
    · intro word
      rw [word, parse?_booleanText] at read
      contradiction
  · rw [means]
    exact ⟨nofun, fun word => absurd word (noWord b)⟩

theorem infer_eq_number_iff {n : Number} :
  infer raw = .number n ↔ Number.parse? (Text.trim raw).toList = some n
  := by
  rcases infer_cases raw with ⟨b, word, means⟩ | ⟨m, read, means⟩ | ⟨noWord, read, means⟩
  · rw [means, word, parse?_booleanText]
    exact ⟨nofun, nofun⟩
  · rw [means, read, number.injEq, Option.some.injEq]
  · rw [means, read]
    exact ⟨nofun, nofun⟩

/-- A text that means a text means itself. -/
theorem eq_of_infer_eq_text {s : String} (means : infer raw = .text s) :
  s = raw
  := by
  rcases infer_cases raw with ⟨b, -, other⟩ | ⟨n, -, other⟩ | ⟨-, -, same⟩
  · exact nomatch other.symm.trans means
  · exact nomatch other.symm.trans means
  · exact (text.inj (same.symm.trans means)).symm

end Scalar

/-! ### Domains -/

namespace Domain

variable {name raw : String}

theorem parse_number_iff {n : Number} :
  number.parse name raw = .ok (.number n) ↔ Number.parse? (Text.trim raw).toList = some n
  := by
  rw [parse_eq_ok_iff]
  simp [read?, admits]

theorem parse_boolean_of_word {b : Bool} (word : Text.trim raw = Scalar.booleanText b) :
  boolean.parse name raw = .ok (.boolean b)
  := by
  rw [parse_eq_ok_iff, read?, word, Scalar.parseBoolean?_booleanText]
  exact ⟨rfl, rfl⟩

end Domain

namespace Scalar

/-! ### Values between blanks -/

section

variable {front back : String} (blankFront : Text.Blank front.toList)
  (blankBack : Text.Blank back.toList)

include blankFront blankBack

theorem infer_booleanText (b : Bool) :
  infer (front ++ booleanText b ++ back) = .boolean b
  := by
  rw [infer_eq_boolean_iff]
  simpa using Text.trim_append blankFront (trimmed_booleanText b) blankBack

theorem infer_integerText (value : Int)
    (fits : -0x8000000000000000 ≤ value ∧ value < 0x10000000000000000) :
  infer (front ++ Number.integerText value ++ back) = .number (.integer value fits)
  := by
  rw [infer_eq_number_iff]
  exact Number.parse?_trim_integerText blankFront blankBack value fits

end

/-- **Inference agrees with the domains and loses nothing.**  A text means a number exactly if the
domain of numbers reads it as this number.  If it means a truth value, the domain of truth values
reads it as this one.  Otherwise it means itself, blanks and all.  The text of a truth value or of
an integer means this value, with any blanks around it. -/
theorem infer_decided (name raw : String) :
  (∀ n, infer raw = .number n ↔ Domain.number.parse name raw = .ok (.number n))
    ∧ (∀ b, infer raw = .boolean b → Domain.boolean.parse name raw = .ok (.boolean b))
    ∧ ((∀ n, infer raw ≠ .number n) → (∀ b, infer raw ≠ .boolean b) → infer raw = .text raw)
    ∧ ∀ v : Scalar, (∃ b, v = .boolean b) ∨ (∃ value, v.IsInteger value) →
        ∀ front back : String, Text.Blank front.toList → Text.Blank back.toList →
          infer (front ++ v.display ++ back) = v
  := by
  refine ⟨?_, ?_, ?_, ?_⟩
  · intro n
    rw [infer_eq_number_iff, Domain.parse_number_iff]
  · intro b means
    apply Domain.parse_boolean_of_word
    exact infer_eq_boolean_iff.1 means
  · intro noNumber noBoolean
    cases means : infer raw with
    | number n => exact absurd means (noNumber n)
    | boolean b => exact absurd means (noBoolean b)
    | text s => rw [eq_of_infer_eq_text means]
  · intro v kind front back blankFront blankBack
    rcases kind with ⟨b, rfl⟩ | ⟨value, fits, rfl⟩
    · exact infer_booleanText blankFront blankBack b
    · exact infer_integerText blankFront blankBack value fits

/-- A truth value with a blank, a text that is a numeral for people only, and the least integer
between blanks of two kinds. -/
theorem infer_decided_spaced :
  Domain.boolean.parse "PRESCALE_GRAD" "true\t" = .ok (.boolean true)
    ∧ infer " 1_000 " = .text " 1_000 "
    ∧ infer ("\u3000" ++ "-9223372036854775808" ++ "\n")
      = .number (.integer (-9223372036854775808) (by decide))
  := by
  obtain ⟨-, ofBoolean, -, -⟩ := infer_decided "PRESCALE_GRAD" "true\t"
  obtain ⟨-, -, otherwise, between⟩ := infer_decided "RUN" " 1_000 "
  refine ⟨ofBoolean true (by decide), otherwise ?_ ?_, ?_⟩
  · intro n means
    have unread : Number.parse? (Text.trim " 1_000 ").toList = none := by decide
    rw [infer_eq_number_iff, unread] at means
    contradiction
  · intro b means
    rw [infer_eq_boolean_iff] at means
    revert b
    decide
  · apply between (.number (.integer (-9223372036854775808) (by decide)))
    · exact .inr ⟨_, _, rfl⟩
    · exact List.all_eq_true.1 (by decide)
    · exact List.all_eq_true.1 (by decide)

end Scalar

end ConfigTemplate
