import ConfigTemplate.Proofs.Placeholder.Substitution
import ConfigTemplate.Proofs.Text.ByteOrder

/-!
# Slices of texts

A text can be cut at a byte only if a character starts or the text ends there.  The bytes of ASCII
characters stand for nothing else than these characters, so whoever goes through a text byte by byte
and stops at some of them stops where it can be cut: `takeWhile_encoded`.
-/

namespace ConfigTemplate

/-! ### Cutting at bytes -/

/-- A text can be cut behind this number of its bytes. -/
abbrev IsBoundary (source : String) (offset : Nat) : Prop :=
  String.Pos.Raw.IsValid source ⟨offset⟩

/-- The part of a text from one of its bytes up to another one.  There is none unless the bytes are
in this order and the text can be cut at both of them. -/
def slice? (source : String) (start stop : Nat) : Option String :=
  if places : start ≤ stop ∧ IsBoundary source start ∧ IsBoundary source stop then
    some (String.extract ⟨⟨start⟩, places.2.1⟩ ⟨⟨stop⟩, places.2.2⟩)
  else none

theorem utf8ByteSize_ofList (cs : List Char) :
  (String.ofList cs).utf8ByteSize = byteLength cs
  := by
  induction cs with
  | nil => rfl
  | cons c rest ih =>
    have split : String.ofList (c :: rest) = String.singleton c ++ String.ofList rest := by
      rw [String.singleton_eq_ofList, ← String.ofList_append]
      rfl
    rw [split, String.utf8ByteSize_append, String.utf8ByteSize_singleton, ih, byteLength]

theorem byteLength_toList (source : String) :
  byteLength source.toList = source.utf8ByteSize
  := by rw [← utf8ByteSize_ofList, String.ofList_toList]

section

variable {source : String}

theorem isBoundary_of_append {front back : List Char} (whole : source.toList = front ++ back) :
  IsBoundary source (byteLength front)
  := by
  apply String.Pos.Raw.isValid_iff_exists_append.2
  refine ⟨String.ofList front, String.ofList back, ?_, ?_⟩
  · rw [← String.ofList_append, ← whole, String.ofList_toList]
  · rw [← utf8ByteSize_ofList]
    rfl

/-- What stands between a front and a back of a text is the slice between them. -/
theorem slice?_of_append (front mid : List Char) {back : List Char}
    (whole : source.toList = front ++ mid ++ back) :
  slice? source (byteLength front) (byteLength (front ++ mid)) = some (String.ofList mid)
  := by
  have start : IsBoundary source (byteLength front) :=
    isBoundary_of_append (whole.trans (List.append_assoc ..))
  have stop : IsBoundary source (byteLength (front ++ mid)) := isBoundary_of_append whole
  have ordered : byteLength front ≤ byteLength (front ++ mid) := by
    rw [byteLength_append]
    apply Nat.le_add_right
  have bytes : source.toByteArray = (String.ofList front).toByteArray
      ++ ((String.ofList mid).toByteArray ++ (String.ofList back).toByteArray) := by
    rw [← String.toByteArray_append, ← String.toByteArray_append, ← String.ofList_append,
      ← String.ofList_append, ← List.append_assoc, ← whole, String.ofList_toList]
  have size (cs : List Char) : (String.ofList cs).toByteArray.size = byteLength cs := by
    rw [String.size_toByteArray, utf8ByteSize_ofList]
  have behind : byteLength (front ++ mid)
      = byteLength front + (String.ofList mid).toByteArray.size := by
    rw [size, byteLength_append]
  have cut : source.toByteArray.extract (byteLength front + 0) (byteLength (front ++ mid))
      = (String.ofList mid).toByteArray := by
    rw [bytes, behind, ByteArray.extract_append_size_add' (size front).symm,
      ByteArray.extract_append_size_left, ByteArray.extract_zero_size]
  rw [slice?, dif_pos ⟨ordered, start, stop⟩, Option.some_inj, ← String.toByteArray_inj,
    String.toByteArray_extract]
  exact cut

/-- A slice lies in its text, and the text can be cut at both of its ends. -/
theorem bounds_of_slice? {start stop : Nat} {part : String}
    (cut : slice? source start stop = some part) :
  start ≤ stop ∧ stop ≤ source.utf8ByteSize ∧ IsBoundary source start ∧ IsBoundary source stop
  := by
  unfold slice? at cut
  split at cut
  · next places =>
    obtain ⟨ordered, first, last⟩ := places
    exact ⟨ordered, last.le_utf8ByteSize, first, last⟩
  · simp at cut

end

/-! ### Bytes of characters -/

/-- The bytes of a text. -/
def encoded (cs : List Char) : List UInt8 := cs.flatMap String.utf8EncodeChar

theorem encoded_cons (c : Char) (rest : List Char) :
  encoded (c :: rest) = String.utf8EncodeChar c ++ encoded rest
  := List.flatMap_cons

theorem length_encoded (cs : List Char) :
  (encoded cs).length = byteLength cs
  := by
  induction cs with
  | nil => rfl
  | cons c rest ih =>
    rw [encoded_cons, List.length_append, ih, String.length_utf8EncodeChar, byteLength]

/-- The byte is an ASCII character with a property. -/
def IsAscii (p : Char → Bool) (b : UInt8) : Bool :=
  b.toNat < 0x80 && p (Char.ofNat b.toNat)

/-- The byte is part of a character beyond ASCII. -/
def IsHigh (b : UInt8) : Prop := 0x80 ≤ b.toNat

theorem not_isAscii_of_isHigh {p : Char → Bool} {b : UInt8} (high : IsHigh b) :
  IsAscii p b = false
  := by
  have : ¬b.toNat < 0x80 := Nat.not_lt.2 high
  simp [IsAscii, this]

theorem isHigh_ofNat {n : Nat} (low : 0x80 ≤ n) (bound : n < 0x100) :
  IsHigh (UInt8.ofNat n)
  := by
  rw [IsHigh, UInt8.toNat_ofNat_of_lt' bound]
  exact low

/-- A character is a single byte or consists of high bytes. -/
theorem utf8EncodeChar_cases (c : Char) :
  (c.toNat < 0x80 ∧ String.utf8EncodeChar c = [UInt8.ofNat c.toNat])
    ∨ (0x80 ≤ c.toNat ∧ ∀ b ∈ String.utf8EncodeChar c, IsHigh b)
  := by
  have value : c.val.toNat = c.toNat := rfl
  unfold String.utf8EncodeChar
  rw [value]
  dsimp only
  split
  · next small => exact .inl ⟨by omega, rfl⟩
  · next large =>
    refine .inr ⟨by omega, ?_⟩
    repeat' split
    all_goals
      simp only [List.forall_mem_cons, List.not_mem_nil, false_implies, implies_true, and_true]
      repeat' constructor
    all_goals exact isHigh_ofNat (by omega) (by omega)

/-- The property is one of ASCII characters. -/
def OfAscii (p : Char → Bool) : Prop := ∀ c, p c = true → c.toNat < 0x80

/-- The first byte of a character shows which properties of ASCII characters it has, and the other
bytes are high ones. -/
theorem exists_utf8EncodeChar_cons (c : Char) :
  ∃ b bytes, String.utf8EncodeChar c = b :: bytes
    ∧ c.utf8Size = bytes.length + 1
    ∧ (∀ p, OfAscii p → IsAscii p b = p c)
    ∧ (∀ d ∈ bytes, IsHigh d)
    ∧ (c.toNat < 0x80 → bytes = [])
  := by
  have size := String.length_utf8EncodeChar c
  rcases utf8EncodeChar_cases c with ⟨ascii, single⟩ | ⟨beyond, high⟩
  · refine ⟨UInt8.ofNat c.toNat, [], single, by rw [← size, single]; rfl, ?_, by simp, fun _ => rfl⟩
    intro p _
    have value : (UInt8.ofNat c.toNat).toNat = c.toNat :=
      UInt8.toNat_ofNat_of_lt' (Nat.lt_trans ascii (by decide))
    simp [IsAscii, value, ascii]
  · obtain ⟨b, bytes, several⟩ := List.exists_cons_of_ne_nil (utf8EncodeChar_ne_nil c)
    rw [several, List.forall_mem_cons] at high
    refine ⟨b, bytes, several, by rw [← size, several]; rfl, ?_, high.2, by omega⟩
    intro p ofAscii
    rw [not_isAscii_of_isHigh high.1]
    cases holds : p c with
    | false => rfl
    | true => exact absurd (ofAscii c holds) (by omega)

/-- Going through the bytes as long as they are characters of a kind is going through the
characters. -/
theorem takeWhile_encoded {p : Char → Bool} (ofAscii : OfAscii p) (cs : List Char) :
  (encoded cs).takeWhile (IsAscii p) = encoded (cs.takeWhile p)
    ∧ (encoded cs).dropWhile (IsAscii p) = encoded (cs.dropWhile p)
  := by
  induction cs with
  | nil => exact ⟨rfl, rfl⟩
  | cons c rest ih =>
    obtain ⟨b, bytes, shape, -, kind, -, single⟩ := exists_utf8EncodeChar_cons c
    cases holds : p c with
    | true =>
      obtain rfl := single (ofAscii c holds)
      simp [encoded_cons, shape, kind p ofAscii, holds, ih]
    | false => simp [shape, kind p ofAscii, holds, encoded]

end ConfigTemplate
