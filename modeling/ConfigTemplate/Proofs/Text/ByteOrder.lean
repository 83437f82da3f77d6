/-!
# The order of bytes

Strings are ordered by code points.  That is the order of the bytes of their UTF-8 form, because
the encoding of a character is compared with that of another one before what follows it.
-/

namespace ConfigTemplate

/-- The bytes of the UTF-8 form of a string. -/
def utf8Bytes (s : String) : List UInt8 := s.toUTF8.data.toList

theorem utf8Bytes_eq (s : String) :
  utf8Bytes s = s.toList.flatMap String.utf8EncodeChar
  := by
  rw [utf8Bytes, String.toUTF8_eq_toByteArray, ← String.ofList_toList (s := s),
    String.toByteArray_ofList]
  simp [List.utf8Encode]

/-- Sequences of bytes are compared by the first one, and if it is the same by the others. -/
theorem cons_lt_cons_of_bytes {a b : Nat} (ha : a < 256) (hb : b < 256) {front back : List UInt8}
    (ordered : a ≤ b) (later : a = b → front < back) :
  UInt8.ofNat a :: front < UInt8.ofNat b :: back
  := by
  rw [List.cons_lt_cons_iff, UInt8.lt_iff_toNat_lt, UInt8.toNat_ofNat_of_lt' ha,
    UInt8.toNat_ofNat_of_lt' hb]
  rcases Nat.lt_or_eq_of_le ordered with less | same
  · exact .inl less
  · exact .inr ⟨by rw [same], later same⟩

/-- A smaller character has the smaller encoding, whatever follows. -/
theorem utf8EncodeChar_append_lt {c d : Char} (h : c < d) (front back : List UInt8) :
  String.utf8EncodeChar c ++ front < String.utf8EncodeChar d ++ back
  := by
  have less : c.val.toNat < d.val.toNat := h
  have bound : d.val.toNat < 0x110000 := by
    have valid := d.valid
    simp only [UInt32.isValidChar, Nat.isValidChar] at valid
    omega
  unfold String.utf8EncodeChar
  generalize c.val.toNat = v at less
  generalize d.val.toNat = w at less bound
  -- a longer encoding starts with a greater byte, and of two with one length the bits are compared
  dsimp only
  split
  · repeat' split
    all_goals exact cons_lt_cons_of_bytes (by omega) (by omega) (by omega) (by omega)
  rw [if_neg (show ¬w ≤ 127 by omega)]
  split
  · split
    · apply cons_lt_cons_of_bytes (by omega) (by omega) (by omega)
      intro _
      exact cons_lt_cons_of_bytes (by omega) (by omega) (by omega) (by omega)
    · split
      all_goals exact cons_lt_cons_of_bytes (by omega) (by omega) (by omega) (by omega)
  rw [if_neg (show ¬w ≤ 2047 by omega)]
  split
  · split
    · apply cons_lt_cons_of_bytes (by omega) (by omega) (by omega)
      intro _
      apply cons_lt_cons_of_bytes (by omega) (by omega) (by omega)
      intro _
      exact cons_lt_cons_of_bytes (by omega) (by omega) (by omega) (by omega)
    · exact cons_lt_cons_of_bytes (by omega) (by omega) (by omega) (by omega)
  rw [if_neg (show ¬w ≤ 65535 by omega)]
  apply cons_lt_cons_of_bytes (by omega) (by omega) (by omega)
  intro _
  apply cons_lt_cons_of_bytes (by omega) (by omega) (by omega)
  intro _
  apply cons_lt_cons_of_bytes (by omega) (by omega) (by omega)
  intro _
  exact cons_lt_cons_of_bytes (by omega) (by omega) (by omega) (by omega)

theorem utf8EncodeChar_ne_nil (c : Char) :
  String.utf8EncodeChar c ≠ []
  := by
  unfold String.utf8EncodeChar
  dsimp only
  repeat' split
  all_goals nofun

/-- The smaller string has the smaller bytes. -/
theorem utf8Bytes_lt {s t : String} (h : s < t) :
  utf8Bytes s < utf8Bytes t
  := by
  rw [utf8Bytes_eq, utf8Bytes_eq]
  rw [String.lt_iff] at h
  generalize s.toList = cs at h
  generalize t.toList = ds at h
  induction h with
  | nil =>
    rename_i d rest
    obtain ⟨byte, bytes, shape⟩ := List.exists_cons_of_ne_nil (utf8EncodeChar_ne_nil d)
    rw [List.flatMap_cons, shape]
    apply List.Lex.nil
  | rel less => apply utf8EncodeChar_append_lt less
  | cons _ ih => apply List.append_left_lt ih

end ConfigTemplate
