import ConfigTemplate.Proofs.Json.NumeralText

/-!
# The characters of number texts

The text of a number, of either kind and in either notation, consists of digits, signs, points and
the letter of an exponent.
-/

namespace ConfigTemplate.Number

/-- A character that the text of a number may have. -/
def isTextChar (c : Char) : Bool :=
  c.isDigit || c == '.' || c == 'e' || c == '+' || c == '-'

theorem isTextChar_toDigits (n : Nat) :
  ∀ c ∈ Nat.toDigits 10 n, isTextChar c = true
  := by
  intro c mem
  simp [isTextChar, (Json.Numeral.isDigits_toDigits n).2 c mem]

theorem isTextChar_integerChars (value : Int) :
  ∀ c ∈ integerChars value, isTextChar c = true
  := by
  unfold integerChars
  split
  · rw [List.forall_mem_cons]
    exact ⟨rfl, isTextChar_toDigits _⟩
  · apply isTextChar_toDigits

theorem isTextChar_digits (d : Decimal) :
  ∀ c ∈ d.digits, isTextChar c = true
  := by
  intro c mem
  rw [Decimal.digits, List.mem_reverse] at mem
  apply isTextChar_toDigits d.coefficient
  exact List.mem_reverse.1 ((List.dropWhile_sublist _).subset mem)

theorem isTextChar_plainChars {digits : List Char} (h : ∀ c ∈ digits, isTextChar c = true)
    (exponent : Int) :
  ∀ c ∈ plainChars digits exponent, isTextChar c = true
  := by
  have zeros (n : Nat) : ∀ c ∈ List.replicate n '0', isTextChar c = true := by
    intro c mem
    rw [List.eq_of_mem_replicate mem]
    rfl
  unfold plainChars
  split
  · simp only [List.forall_mem_cons, List.forall_mem_append]
    exact ⟨rfl, rfl, zeros _, h⟩
  · dsimp only
    split
    · simp only [List.forall_mem_append, List.forall_mem_cons]
      exact ⟨⟨h, zeros _⟩, rfl, rfl, List.forall_mem_nil _⟩
    · simp only [List.forall_mem_append, List.forall_mem_cons]
      exact ⟨fun c mem => h c (List.mem_of_mem_take mem), rfl,
        fun c mem => h c (List.mem_of_mem_drop mem)⟩

theorem isTextChar_scientificChars {digits : List Char} (h : ∀ c ∈ digits, isTextChar c = true)
    (exponent : Int) :
  ∀ c ∈ scientificChars digits exponent, isTextChar c = true
  := by
  have sign : isTextChar (if exponent < 0 then '-' else '+') = true := by split <;> rfl
  unfold scientificChars
  simp only [List.forall_mem_append, List.forall_mem_cons]
  refine ⟨?_, rfl, sign, isTextChar_toDigits _⟩
  split
  · apply List.forall_mem_nil
  · exact h
  · rw [List.forall_mem_cons] at h ⊢
    rw [List.forall_mem_cons]
    exact ⟨h.1, rfl, h.2⟩

theorem isTextChar_floatChars (x : Binary64) :
  ∀ c ∈ floatChars x, isTextChar c = true
  := by
  have magnitude : ∀ c ∈ (if x.isZero then ['0', '.', '0'] else
      if layout.plainFrom ≤ (Decimal.shortest x).scientificExponent
          && (Decimal.shortest x).scientificExponent ≤ layout.plainTo then
        plainChars (Decimal.shortest x).digits (Decimal.shortest x).scientificExponent
      else
        scientificChars (Decimal.shortest x).digits (Decimal.shortest x).scientificExponent),
      isTextChar c = true := by
    split
    · exact List.all_eq_true.1 rfl
    · split
      · apply isTextChar_plainChars (isTextChar_digits _)
      · apply isTextChar_scientificChars (isTextChar_digits _)
  unfold floatChars
  dsimp only
  split
  · rw [List.forall_mem_cons]
    exact ⟨rfl, magnitude⟩
  · exact magnitude

/-- The text of a number has no other characters. -/
theorem isTextChar_chars (n : Number) :
  ∀ c ∈ n.chars, isTextChar c = true
  := by
  cases n with
  | integer value => apply isTextChar_integerChars
  | float value => apply isTextChar_floatChars

/-- The text of a number has no quotes. -/
theorem quote_notMem_chars (n : Number) :
  '"' ∉ n.chars
  := by
  intro mem
  have := n.isTextChar_chars '"' mem
  contradiction

end ConfigTemplate.Number
