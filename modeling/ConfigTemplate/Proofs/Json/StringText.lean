import ConfigTemplate.Json.Printer
import ConfigTemplate.Proofs.Json.NumeralText

/-!
# Strings as they are written

The grammar of JSON strings: a character stands for itself, or is written as an escape by letter,
by number, or by the two numbers of a surrogate pair.  The reader of strings accepts what the
grammar writes and nothing else, and the printer writes in this grammar.
-/

namespace ConfigTemplate.Json

/-- What a successful result was made from. -/
theorem map_eq_ok {ε α β : Type} {f : α → β} {result : Except ε α} {image : β}
    (h : result.map f = .ok image) :
  ∃ value, result = .ok value ∧ f value = image
  := by
  cases result with
  | error e => simp [Except.map] at h
  | ok value => exact ⟨value, rfl, Except.ok.inj h⟩

/-- One character of a string in one of its spellings. -/
inductive Piece where
  /-- The character itself. -/
  | plain (c : Char) (allowed : c ≠ '"' ∧ c ≠ '\\' ∧ ¬c < ' ')
  /-- An escape by letter. -/
  | letter (c escaped : Char) (known : letterEscape? c = some escaped)
  /-- An escape by number. -/
  | code (a b c d : Char) (number : Nat) (hex : hexValue4? a b c d = some number)
    (whole : isLowSurrogate number = false ∧ isHighSurrogate number = false)
  /-- Escapes of the two halves of a surrogate pair. -/
  | pair (a b c d : Char) (high : Nat) (hexHigh : hexValue4? a b c d = some high)
    (isHigh : isLowSurrogate high = false ∧ isHighSurrogate high = true)
    (e f g h : Char) (low : Nat) (hexLow : hexValue4? e f g h = some low)
    (isLow : isLowSurrogate low = true)

namespace Piece

/-- The spelling. -/
def chars : Piece → List Char
  | .plain c _ => [c]
  | .letter c _ _ => ['\\', c]
  | .code a b c d _ _ _ => ['\\', 'u', a, b, c, d]
  | .pair a b c d _ _ _ e f g h _ _ _ => ['\\', 'u', a, b, c, d, '\\', 'u', e, f, g, h]

/-- The character that is spelled. -/
def char : Piece → Char
  | .plain c _ => c
  | .letter _ escaped _ => escaped
  | .code _ _ _ _ number _ _ => Char.ofNat number
  | .pair _ _ _ _ high _ _ _ _ _ _ low _ _ => surrogatePair high low

/-- A piece is a character that stands for itself, or starts with a backslash. -/
theorem plain_or_escape (piece : Piece) :
  (∃ c allowed, piece = .plain c allowed) ∨ ∃ tail, piece.chars = '\\' :: tail
  := by
  cases piece with
  | plain c allowed => exact .inl ⟨c, allowed, rfl⟩
  | letter => exact .inr ⟨_, rfl⟩
  | code => exact .inr ⟨_, rfl⟩
  | pair => exact .inr ⟨_, rfl⟩

end Piece

/-! ### The reader accepts what the grammar writes -/

theorem readHex_eq {a b c d : Char} {number : Nat} (hex : hexValue4? a b c d = some number)
    (p : Position) (rest : List Char) :
  readHex p (a :: b :: c :: d :: rest) = .ok number
  := by
  simp [readHex, hex]

/-- An escape is read after its backslash, and all of it is taken. -/
theorem readEscape_append {piece : Piece} (p : Position) (rest : List Char) {tail : List Char}
    (escape : piece.chars = '\\' :: tail) :
  readEscape p (tail ++ rest) = .ok (piece.char, tail.length)
  := by
  cases piece with
  | plain c allowed => simp_all [Piece.chars]
  | letter c escaped known =>
    obtain rfl : [c] = tail := by simpa [Piece.chars] using escape
    have notU : c ≠ 'u' := by
      rintro rfl
      simp [letterEscape?] at known
    rw [List.singleton_append, readEscape.eq_3 _ _ _ notU, known]
    rfl
  | code a b c d number hex whole =>
    obtain rfl : ['u', a, b, c, d] = tail := by simpa [Piece.chars] using escape
    simp [readEscape, readNumberEscape, readHex_eq hex, whole, Piece.char, bind, Except.bind, pure,
      Except.pure, Except.map]
  | pair a b c d high hexHigh isHigh e f g h low hexLow isLow =>
    obtain rfl : ['u', a, b, c, d, '\\', 'u', e, f, g, h] = tail := by
      simpa [Piece.chars] using escape
    simp [readEscape, readNumberEscape, readHex_eq hexHigh, readHex_eq hexLow, isHigh, isLow,
      Piece.char, bind, Except.bind, pure, Except.pure, Except.map]

/-- The reader takes a string off the front of a text. -/
theorem readString_append (pieces : List Piece) (p : Position) (rest : List Char) :
  ∃ q, readString p (pieces.flatMap Piece.chars ++ '"' :: rest)
    = .ok (pieces.map Piece.char, ⟨q, rest⟩)
  := by
  induction pieces generalizing p with
  | nil =>
    use p.after '"'
    simp [readString]
  | cons piece pieces ih =>
    rcases piece.plain_or_escape with ⟨c, allowed, rfl⟩ | ⟨tail, escape⟩
    · obtain ⟨q, reads⟩ := ih (p.after c)
      use q
      simp only [List.flatMap_cons, Piece.chars, List.cons_append, List.nil_append]
      rw [readString.eq_4 _ _ _ allowed.1 allowed.2.1, if_neg allowed.2.2, reads]
      rfl
    · obtain ⟨q, reads⟩ := ih ((p.after '\\').afterAll tail)
      use q
      simp only [List.flatMap_cons, escape, List.cons_append, List.append_assoc]
      rw [readString.eq_3, readEscape_append _ _ escape]
      simp [reads, Except.map]

/-! ### What the reader accepts is written by the grammar -/

theorem exists_of_readHex {p : Position} {cs : List Char} {number : Nat}
    (h : readHex p cs = .ok number) :
  ∃ a b c d rest, cs = a :: b :: c :: d :: rest ∧ hexValue4? a b c d = some number
  := by
  unfold readHex at h
  split at h
  · next a b c d rest =>
    cases hex : hexValue4? a b c d with
    | none =>
      simp only [hex] at h
      split at h
      · simp at h
      · simp at h
    | some value =>
      simp only [hex] at h
      obtain rfl := Except.ok.inj h
      exact ⟨a, b, c, d, rest, rfl, hex⟩
  · dsimp only at h
    split at h
    · simp at h
    · simp at h

/-- The number escape that is read is that of one character or of a surrogate pair. -/
theorem exists_piece_of_readNumberEscape {p : Position} {cs : List Char} {c : Char} {count : Nat}
    (h : readNumberEscape p cs = .ok (c, count)) :
  ∃ piece : Piece, '\\' :: 'u' :: cs = piece.chars ++ cs.drop count ∧ piece.char = c
  := by
  obtain ⟨number, readsNumber, next⟩ := bind_eq_ok h
  obtain ⟨a, b, c₁, d, rest, rfl, hex⟩ := exists_of_readHex readsNumber
  dsimp only at next
  split at next
  · simp at next
  · next notLow =>
    have notLow : isLowSurrogate number = false := by simpa using notLow
    split at next
    · next notHigh =>
      obtain ⟨rfl, rfl⟩ := Prod.mk.inj (Except.ok.inj next)
      exact ⟨.code a b c₁ d number hex ⟨notLow, by simpa using notHigh⟩, rfl, rfl⟩
    · next isHigh =>
      have isHigh : isHighSurrogate number = true := by simpa using isHigh
      simp only [List.drop_succ_cons, List.drop_zero] at next
      split at next
      · simp at next
      · next rest =>
        split at next
        · simp at next
        · next rest =>
          obtain ⟨low, readsLow, next⟩ := bind_eq_ok next
          obtain ⟨e, f, g, i, rest, rfl, hexLow⟩ := exists_of_readHex readsLow
          split at next
          · next isLow =>
            obtain ⟨rfl, rfl⟩ := Prod.mk.inj (Except.ok.inj next)
            exact ⟨.pair a b c₁ d number hex ⟨notLow, isHigh⟩ e f g i low hexLow isLow, rfl, rfl⟩
          · simp at next
        · simp at next
      · simp at next

/-- An escape that is read is a piece. -/
theorem exists_piece_of_readEscape {p : Position} {cs : List Char} {c : Char} {count : Nat}
    (h : readEscape p cs = .ok (c, count)) :
  ∃ piece : Piece, '\\' :: cs = piece.chars ++ cs.drop count ∧ piece.char = c
  := by
  unfold readEscape at h
  split at h
  · simp at h
  · next rest =>
    obtain ⟨⟨char, length⟩, reads, same⟩ := map_eq_ok h
    obtain ⟨rfl, rfl⟩ := Prod.mk.inj same
    apply exists_piece_of_readNumberEscape reads
  · next d rest notU =>
    split at h
    · next escaped known =>
      obtain ⟨rfl, rfl⟩ := Prod.mk.inj (Except.ok.inj h)
      exact ⟨.letter d escaped known, rfl, rfl⟩
    · simp at h

theorem exists_pieces_of_readString {p : Position} {cs content : List Char} {left : Rest}
    (h : readString p cs = .ok (content, left)) :
  ∃ pieces : List Piece, cs = pieces.flatMap Piece.chars ++ '"' :: left.chars
    ∧ pieces.map Piece.char = content
  := by
  fun_induction readString p cs generalizing content left with
  | case1 => simp at h
  | case2 p rest =>
    obtain ⟨rfl, rfl⟩ := Prod.mk.inj (Except.ok.inj h)
    use []
    simp
  | case3 p rest fault reads => simp at h
  | case4 p rest c count reads behind =>
    rename_i ih
    obtain ⟨⟨inner, _⟩, readsRest, same⟩ := map_eq_ok h
    obtain ⟨rfl, rfl⟩ := Prod.mk.inj same
    obtain ⟨pieces, shape, chars⟩ := ih readsRest
    obtain ⟨piece, front, char⟩ := exists_piece_of_readEscape reads
    use piece :: pieces
    rw [front, shape]
    simp [char, chars]
  | case5 p c rest notQuote notEscape control => simp at h
  | case6 p c rest notQuote notEscape allowed ih =>
    obtain ⟨⟨inner, _⟩, readsRest, same⟩ := map_eq_ok h
    obtain ⟨rfl, rfl⟩ := Prod.mk.inj same
    obtain ⟨pieces, shape, chars⟩ := ih readsRest
    use .plain c ⟨notQuote, notEscape, allowed⟩ :: pieces
    simp [Piece.chars, Piece.char, shape, chars]

/-! ### Strings as lexemes -/

theorem ne_quote_of_hexValue {c : Char} (h : (Text.hexValue? c).isSome = true) :
  c ≠ '"' ∧ c ≠ '\\'
  := by
  constructor
  · rintro rfl
    revert h
    decide
  · rintro rfl
    revert h
    decide

/-- No hexadecimal digit closes a string or escapes anything. -/
theorem isContent_hex {a b c d : Char} {number : Nat} (h : hexValue4? a b c d = some number)
    (rest : List Char) :
  Lexeme.isContent (a :: b :: c :: d :: rest) = Lexeme.isContent rest
  := by
  obtain ⟨_, isA, h⟩ := Option.bind_eq_some_iff.1 h
  obtain ⟨_, isB, h⟩ := Option.bind_eq_some_iff.1 h
  obtain ⟨_, isC, h⟩ := Option.bind_eq_some_iff.1 h
  obtain ⟨_, isD, h⟩ := Option.bind_eq_some_iff.1 h
  rw [Lexeme.isContent_cons (ne_quote_of_hexValue (by simp [isA])),
    Lexeme.isContent_cons (ne_quote_of_hexValue (by simp [isB])),
    Lexeme.isContent_cons (ne_quote_of_hexValue (by simp [isC])),
    Lexeme.isContent_cons (ne_quote_of_hexValue (by simp [isD]))]

/-- Pieces make up the content of a closed string. -/
theorem isContent_pieces (pieces : List Piece) :
  Lexeme.isContent (pieces.flatMap Piece.chars) = true
  := by
  induction pieces with
  | nil => rfl
  | cons piece pieces ih =>
    rw [List.flatMap_cons]
    cases piece with
    | plain c allowed =>
      rw [Piece.chars, List.singleton_append, Lexeme.isContent_cons ⟨allowed.1, allowed.2.1⟩, ih]
    | letter c escaped known => simpa [Piece.chars, Lexeme.isContent] using ih
    | code a b c d number hex whole =>
      simp only [Piece.chars, List.cons_append, List.nil_append, Lexeme.isContent]
      rw [isContent_hex hex, ih]
    | pair a b c d high hexHigh isHigh e f g h low hexLow isLow =>
      simp only [Piece.chars, List.cons_append, List.nil_append, Lexeme.isContent]
      rw [isContent_hex hexHigh, Lexeme.isContent, isContent_hex hexLow, ih]

/-! ### The printer writes in the grammar -/

/-- The number of a control character in four hexadecimal digits. -/
theorem hexDigits_control :
  ∀ n : Fin 32, List.replicate (4 - (Text.hexDigits n).length) '0' ++ Text.hexDigits n
      = ['0', '0', (n.val / 16).digitChar, (n.val % 16).digitChar]
    ∧ hexValue4? '0' '0' (n.val / 16).digitChar (n.val % 16).digitChar = some n.val
    ∧ isLowSurrogate n.val = false ∧ isHighSurrogate n.val = false
  := by
  decide

/-- The printer writes a character as a piece. -/
theorem exists_piece_of_escapedChar (c : Char) :
  ∃ piece : Piece, piece.chars = escapedChar c ∧ piece.char = c
  := by
  unfold escapedChar
  split_ifs with quote backslash backspace feed newline carriage tab control
  · exact ⟨.letter '"' '"' rfl, rfl, (eq_of_beq quote).symm⟩
  · exact ⟨.letter '\\' '\\' rfl, rfl, (eq_of_beq backslash).symm⟩
  · exact ⟨.letter 'b' '\x08' rfl, rfl, (eq_of_beq backspace).symm⟩
  · exact ⟨.letter 'f' '\x0c' rfl, rfl, (eq_of_beq feed).symm⟩
  · exact ⟨.letter 'n' '\n' rfl, rfl, (eq_of_beq newline).symm⟩
  · exact ⟨.letter 'r' '\r' rfl, rfl, (eq_of_beq carriage).symm⟩
  · exact ⟨.letter 't' '\t' rfl, rfl, (eq_of_beq tab).symm⟩
  · obtain ⟨digits, hex, whole⟩ := hexDigits_control ⟨c.toNat, control⟩
    use .code '0' '0' _ _ c.toNat hex whole
    constructor
    · rw [List.append_assoc, digits]
      rfl
    · apply Char.ofNat_toNat
  · exact ⟨.plain c ⟨by simpa using quote, by simpa using backslash, control⟩, rfl, rfl⟩

/-- The printer writes a string as pieces. -/
theorem exists_pieces_of_escapedChars (cs : List Char) :
  ∃ pieces : List Piece, pieces.flatMap Piece.chars = cs.flatMap escapedChar
    ∧ pieces.map Piece.char = cs
  := by
  induction cs with
  | nil => exact ⟨[], rfl, rfl⟩
  | cons c cs ih =>
    obtain ⟨piece, shape, char⟩ := exists_piece_of_escapedChar c
    obtain ⟨pieces, shapes, chars⟩ := ih
    use piece :: pieces
    simp [shape, char, shapes, chars]

end ConfigTemplate.Json
