import ConfigTemplate.Proofs.Placeholder.Tokens
import ConfigTemplate.Proofs.Text.Slices

/-!
# Scanning byte by byte

A template can be scanned without looking at its characters.  The scan goes through the bytes, in a
string it passes over the byte behind a backslash, whatever that is part of, and it cuts the template
at the places where it stops.  `scan?_eq` states that all these cuts are at boundaries of characters,
and that the scan finds the identifiers of the template.
-/

namespace ConfigTemplate

/-! ### The scan -/

/-- The place of the quote that closes a string, with the bytes behind it.  The given bytes start at
the given place. -/
def closingQuote? : Nat → List UInt8 → Option (Nat × List UInt8)
  | _, [] => none
  | i, b :: rest =>
    if IsAscii (· == '\\') b then
      match rest with
      | [] => none
      | _ :: left => closingQuote? (i + 2) left
    else if IsAscii (· == '"') b then some (i, rest)
    else closingQuote? (i + 1) rest

/-- What follows the closing quote is shorter than what followed the opening one. -/
theorem length_lt_of_closingQuote? {i place : Nat} {bytes left : List UInt8}
    (closed : closingQuote? i bytes = some (place, left)) :
  left.length < bytes.length
  := by
  fun_induction closingQuote? i bytes with
  | case1 => simp at closed
  | case2 => simp at closed
  | case3 i b _ skipped rest ih =>
    have := ih closed
    simp only [List.length_cons]
    omega
  | case4 i b rest _ _ =>
    obtain ⟨-, rfl⟩ := Prod.mk.inj (Option.some.inj closed)
    simp
  | case5 i b rest _ _ ih =>
    have := ih closed
    simp only [List.length_cons]
    omega

/-- The identifier of a name from one byte of the template up to another one.  Its line and its
column are those of the first byte; to count them the template is cut there and at the start of the
line. -/
def occurrence? (source name : String) (form : Form) (start stop : Nat) : Option Occurrence := do
  let before ← slice? source 0 start
  let lines := before.toList.reverse.dropWhile (· != '\n')
  let line ← slice? source (byteLength lines.reverse) start
  return ⟨name, form, start, stop, before.toList.count '\n' + 1, line.toList.length + 1⟩

/-- The identifiers in the bytes from a place of the template on. -/
def scan? (source : String) (i : Nat) (bytes : List UInt8) : Option (List Occurrence) :=
  match bytes with
  | [] => some []
  | b :: rest =>
    if IsAscii (· == '"') b then
      match closed : closingQuote? (i + 1) rest with
      | none => some []
      | some (place, left) =>
        have : left.length < rest.length := length_lt_of_closingQuote? closed
        do
        let content ← slice? source (i + 1) place
        if isPlaceholderName content.toList then
          let o ← occurrence? source content .quoted i (place + 1)
          let later ← scan? source (place + 1) left
          return o :: later
        else scan? source (place + 1) left
    else if IsAscii Lexeme.startsNumber b then
      let run := rest.takeWhile (IsAscii Lexeme.continuesNumber)
      have := (List.dropWhile_sublist (IsAscii Lexeme.continuesNumber) (l := rest)).length_le
      scan? source (i + 1 + run.length) (rest.dropWhile (IsAscii Lexeme.continuesNumber))
    else if IsAscii Lexeme.startsWord b then
      let run := rest.takeWhile (IsAscii Lexeme.continuesWord)
      let stop := i + 1 + run.length
      have := (List.dropWhile_sublist (IsAscii Lexeme.continuesWord) (l := rest)).length_le
      do
      let word ← slice? source i stop
      if !isKeyword word.toList then
        let o ← occurrence? source word .bare i stop
        let later ← scan? source stop (rest.dropWhile (IsAscii Lexeme.continuesWord))
        return o :: later
      else scan? source stop (rest.dropWhile (IsAscii Lexeme.continuesWord))
    else scan? source (i + 1) rest
termination_by bytes.length
decreasing_by all_goals (simp only [List.length_cons]; omega)

/-! ### Bytes and characters -/

theorem ofAscii_beq {c : Char} (ascii : c.toNat < 0x80) :
  OfAscii (· == c)
  := by
  intro d same
  rwa [eq_of_beq same]

theorem ofAscii_of_le {p : Char → Bool} (bound : ∀ c, p c = true → c ≤ 'z') :
  OfAscii p
  := by
  intro c holds
  have : c.toNat ≤ 'z'.toNat := bound c holds
  have : 'z'.toNat = 122 := rfl
  omega

theorem ofAscii_continuesNumber :
  OfAscii Lexeme.continuesNumber
  := ofAscii_of_le fun _ holds => (Lexeme.bounds_of_continuesNumber holds).2

theorem ofAscii_continuesWord :
  OfAscii Lexeme.continuesWord
  := ofAscii_of_le fun _ holds => (Lexeme.bounds_of_continuesWord holds).2

theorem ofAscii_startsNumber :
  OfAscii Lexeme.startsNumber
  := by
  intro c starts
  apply ofAscii_continuesNumber
  simp only [Lexeme.startsNumber, Bool.or_eq_true] at starts
  rcases starts with minus | digit
  · simp [Lexeme.continuesNumber, eq_of_beq minus]
  · simp [Lexeme.continuesNumber, digit]

theorem ofAscii_startsWord :
  OfAscii Lexeme.startsWord
  := by
  intro c starts
  apply ofAscii_continuesWord
  simp only [Lexeme.startsWord, Bool.or_eq_true] at starts
  rcases starts with letter | underscore
  · simp [Lexeme.continuesWord, Char.isAlphanum, letter]
  · simp [Lexeme.continuesWord, eq_of_beq underscore]

/-! ### The end of a string -/

theorem closingQuote?_cons {b : UInt8} (noBackslash : IsAscii (· == '\\') b = false) (i : Nat)
    (rest : List UInt8) :
  closingQuote? i (b :: rest)
    = if IsAscii (· == '"') b then some (i, rest) else closingQuote? (i + 1) rest
  := by
  cases rest <;> simp [closingQuote?, noBackslash]

/-- No byte beyond ASCII ends a string. -/
theorem closingQuote?_high {high : List UInt8} (beyond : ∀ b ∈ high, IsHigh b) (i : Nat)
    (rest : List UInt8) :
  closingQuote? i (high ++ rest) = closingQuote? (i + high.length) rest
  := by
  induction high generalizing i with
  | nil => rfl
  | cons b others ih =>
    rw [List.forall_mem_cons] at beyond
    obtain ⟨first, later⟩ := beyond
    rw [List.cons_append, closingQuote?_cons (not_isAscii_of_isHigh first),
      not_isAscii_of_isHigh first, if_neg Bool.false_ne_true, ih later, List.length_cons]
    congr 1
    omega

/-- The closing quote is found where the string is closed, also if the byte behind a backslash is
the first one of several that make up a character. -/
theorem closingQuote?_encoded (i : Nat) (cs : List Char) :
  closingQuote? i (encoded cs)
    = (Lexeme.closeString cs).map fun (content, left) => (i + byteLength content, encoded left)
  := by
  have backslash : OfAscii (· == '\\') := ofAscii_beq (by decide)
  have quote : OfAscii (· == '"') := ofAscii_beq (by decide)
  fun_induction Lexeme.closeString cs generalizing i with
  | case1 => rfl
  | case2 => rfl
  | case3 c rest ih =>
    obtain ⟨b, bytes, shape, size, -, high, -⟩ := exists_utf8EncodeChar_cons c
    have step : closingQuote? i (encoded ('\\' :: c :: rest))
        = closingQuote? (i + 2) (bytes ++ encoded rest) := by
      rw [encoded_cons, encoded_cons, shape]
      rfl
    have behind (content : List Char) : i + 2 + bytes.length + byteLength content
        = i + byteLength ('\\' :: c :: content) := by
      have : ('\\').utf8Size = 1 := rfl
      simp only [byteLength]
      omega
    rw [step, closingQuote?_high high, ih, Option.map_map]
    simp only [Function.comp_def, behind]
  | case4 c rest notLast notEscape isQuote =>
    obtain rfl := eq_of_beq isQuote
    have step : closingQuote? i (encoded ('"' :: rest)) = some (i, encoded rest) :=
      closingQuote?_cons rfl i (encoded rest)
    rw [step]
    rfl
  | case5 c rest notLast notEscape isQuote ih =>
    obtain ⟨b, bytes, shape, size, kind, high, -⟩ := exists_utf8EncodeChar_cons c
    have noBackslash : IsAscii (· == '\\') b = false := by
      rw [kind _ backslash]
      exact beq_false_of_ne (Lexeme.ne_backslash notLast notEscape)
    have behind (content : List Char) : i + 1 + bytes.length + byteLength content
        = i + byteLength (c :: content) := by
      simp only [byteLength]
      omega
    rw [encoded_cons, shape, List.cons_append, closingQuote?_cons noBackslash, kind _ quote,
      if_neg isQuote, closingQuote?_high high, ih, Option.map_map]
    simp only [Function.comp_def, behind]

/-! ### The scan of a template -/

section

variable {source : String} {front back : List Char}

/-- To count lines and columns a template can be cut wherever a character starts. -/
theorem occurrence?_eq (whole : source.toList = front ++ back) (name : String) (form : Form)
    (stop : Nat) :
  occurrence? source name form (byteLength front) stop
    = some ⟨name, form, byteLength front, stop, (Mark.start.afterAll front).line,
        (Mark.start.afterAll front).column⟩
  := by
  have before : slice? source 0 (byteLength front) = some (String.ofList front) :=
    slice?_of_append [] front whole
  have lines : front = (front.reverse.dropWhile (· != '\n')).reverse
      ++ (front.reverse.takeWhile (· != '\n')).reverse := by
    rw [← List.reverse_append, List.takeWhile_append_dropWhile, List.reverse_reverse]
  have parts : source.toList = (front.reverse.dropWhile (· != '\n')).reverse
      ++ (front.reverse.takeWhile (· != '\n')).reverse ++ back := by
    rw [← lines]
    exact whole
  have line := slice?_of_append _ _ parts
  rw [← lines] at line
  rw [Mark.afterAll_start]
  simp [occurrence?, before, line]

/-- A lexeme that is no identifier is passed over. -/
theorem identifiers_of_none {lexeme : Lexeme} (none : lexeme.identifier? = none) (front : List Char)
    (row : List Lexeme) :
  identifiers (Mark.start.afterAll front) (lexeme :: row)
    = identifiers (Mark.start.afterAll (front ++ lexeme.chars)) row
  := by rw [Mark.afterAll_append, identifiers, none]

/-- A lexeme is one more identifier, at the places around it, or none. -/
theorem occurrence?_lexeme {lexeme : Lexeme} {form : Form} {name : List Char} {isOne : Bool}
    (found : lexeme.identifier? = if isOne then some (form, name) else none) (row : List Lexeme)
    (whole : source.toList = front ++ back) :
  (if isOne then do
      let o ← occurrence? source (String.ofList name) form (byteLength front)
        (byteLength (front ++ lexeme.chars))
      let later ← some (identifiers (Mark.start.afterAll (front ++ lexeme.chars)) row)
      return o :: later
    else some (identifiers (Mark.start.afterAll (front ++ lexeme.chars)) row))
  = some (identifiers (Mark.start.afterAll front) (lexeme :: row))
  := by
  cases isOne with
  | false =>
    rw [identifiers_of_none found]
    rfl
  | true =>
    rw [if_pos rfl] at found
    rw [if_pos rfl, occurrence?_eq whole, Mark.afterAll_append, identifiers, found]
    simp [Mark.offset_afterAll, Mark.start, byteLength_append]

section

variable {i : Nat} {b : UInt8} {rest : List UInt8}

/-- Behind a quote without a partner nothing is found. -/
theorem scan?_unclosed (isQuote : IsAscii (· == '"') b = true)
    (unclosed : closingQuote? (i + 1) rest = none) :
  scan? source i (b :: rest) = some []
  := by
  rw [scan?, if_pos isQuote]
  split
  · rfl
  · next closed => simp [unclosed] at closed

/-- A closed string is cut out between its quotes. -/
theorem scan?_quoted {place : Nat} {left : List UInt8} {content : String}
    (isQuote : IsAscii (· == '"') b = true)
    (closed : closingQuote? (i + 1) rest = some (place, left))
    (cut : slice? source (i + 1) place = some content) :
  scan? source i (b :: rest)
    = if isPlaceholderName content.toList then do
        let o ← occurrence? source content .quoted i (place + 1)
        let later ← scan? source (place + 1) left
        return o :: later
      else scan? source (place + 1) left
  := by
  rw [scan?, if_pos isQuote]
  split
  · next unclosed => simp [closed] at unclosed
  · next again =>
    obtain ⟨rfl, rfl⟩ := Prod.mk.inj (Option.some.inj (closed.symm.trans again))
    simp [cut]

/-- A number is passed over. -/
theorem scan?_number (noQuote : IsAscii (· == '"') b = false)
    (isNumber : IsAscii Lexeme.startsNumber b = true) :
  scan? source i (b :: rest)
    = scan? source (i + 1 + (rest.takeWhile (IsAscii Lexeme.continuesNumber)).length)
        (rest.dropWhile (IsAscii Lexeme.continuesNumber))
  := by rw [scan?, if_neg (ne_true_of_eq_false noQuote), if_pos isNumber]

/-- A word is cut out. -/
theorem scan?_word {stop : Nat} {word : String} (noQuote : IsAscii (· == '"') b = false)
    (noNumber : IsAscii Lexeme.startsNumber b = false)
    (isWord : IsAscii Lexeme.startsWord b = true)
    (ending : stop = i + 1 + (rest.takeWhile (IsAscii Lexeme.continuesWord)).length)
    (cut : slice? source i stop = some word) :
  scan? source i (b :: rest)
    = if !isKeyword word.toList then do
        let o ← occurrence? source word .bare i stop
        let later ← scan? source stop (rest.dropWhile (IsAscii Lexeme.continuesWord))
        return o :: later
      else scan? source stop (rest.dropWhile (IsAscii Lexeme.continuesWord))
  := by
  subst ending
  rw [scan?, if_neg (ne_true_of_eq_false noQuote), if_neg (ne_true_of_eq_false noNumber),
    if_pos isWord]
  simp [cut]

/-- Any other byte is passed over. -/
theorem scan?_other (noQuote : IsAscii (· == '"') b = false)
    (noNumber : IsAscii Lexeme.startsNumber b = false)
    (noWord : IsAscii Lexeme.startsWord b = false) :
  scan? source i (b :: rest) = scan? source (i + 1) rest
  := by
  rw [scan?, if_neg (ne_true_of_eq_false noQuote), if_neg (ne_true_of_eq_false noNumber),
    if_neg (ne_true_of_eq_false noWord)]

/-- Bytes beyond ASCII are passed over. -/
theorem scan?_high {high : List UInt8} (beyond : ∀ d ∈ high, IsHigh d) (i : Nat) :
  scan? source i (high ++ rest) = scan? source (i + high.length) rest
  := by
  induction high generalizing i with
  | nil => rfl
  | cons d others ih =>
    obtain ⟨first, later⟩ := List.forall_mem_cons.1 beyond
    rw [List.cons_append, scan?_other (not_isAscii_of_isHigh first) (not_isAscii_of_isHigh first)
      (not_isAscii_of_isHigh first), ih later, List.length_cons]
    congr 1
    omega

end

/-- The place behind an ASCII character and a run of characters of some kind. -/
theorem byteLength_append_run {p : Char → Bool} (ofAscii : OfAscii p) {c : Char}
    (single : c.utf8Size = 1) (front rest : List Char) :
  byteLength (front ++ c :: rest.takeWhile p)
    = byteLength front + 1 + ((encoded rest).takeWhile (IsAscii p)).length
  := by
  rw [(takeWhile_encoded ofAscii rest).1, length_encoded, byteLength_append, byteLength, single,
    Nat.add_assoc]

/-- What stands between the quotes of a string starts behind the first one and ends in front of the
second one. -/
theorem slice?_quoted {content : List Char}
    (whole : source.toList = front ++ (Lexeme.quoted content).chars ++ back) :
  slice? source (byteLength front + 1) (byteLength front + 1 + byteLength content)
      = some (String.ofList content)
    ∧ byteLength (front ++ (Lexeme.quoted content).chars)
      = byteLength front + 1 + byteLength content + 1
  := by
  have parts : source.toList = front ++ ['"'] ++ content ++ ('"' :: back) := by
    rw [whole]
    simp [Lexeme.chars]
  have chars : front ++ (Lexeme.quoted content).chars = front ++ ['"'] ++ content ++ ['"'] := by
    simp [Lexeme.chars]
  have opened : byteLength (front ++ ['"']) = byteLength front + 1 := byteLength_append ..
  have inside : byteLength (front ++ ['"'] ++ content)
      = byteLength front + 1 + byteLength content := by rw [byteLength_append, opened]
  constructor
  · rw [← inside, ← opened]
    exact slice?_of_append (front ++ ['"']) content parts
  · rw [chars, byteLength_append, inside]
    rfl

/-- From the boundary of a character on, the identifiers are found. -/
theorem scan?_encoded (whole : source.toList = front ++ back) :
  scan? source (byteLength front) (encoded back)
    = some (identifiers (Mark.start.afterAll front) (lexemes back))
  := by
  have quote : OfAscii (· == '"') := ofAscii_beq (by decide)
  fun_induction lexemes back generalizing front with
  | case1 =>
    rw [encoded, List.flatMap_nil, scan?]
    rfl
  | case2 c rest isQuote unclosed =>
    obtain rfl := eq_of_beq isQuote
    have noEnd := closingQuote?_encoded (byteLength front + 1) rest
    rw [unclosed, Option.map_none] at noEnd
    exact scan?_unclosed rfl noEnd
  | case3 c rest isQuote content left closed _ ih =>
    obtain rfl := eq_of_beq isQuote
    have ending := closingQuote?_encoded (byteLength front + 1) rest
    rw [closed, Option.map_some] at ending
    have isWhole : source.toList = front ++ (Lexeme.quoted content).chars ++ left := by
      rw [whole, Lexeme.eq_append_of_closeString closed]
      simp [Lexeme.chars]
    obtain ⟨cut, behind⟩ := slice?_quoted isWhole
    have step := scan?_quoted (b := '"'.toUInt8) rfl ending cut
    rw [String.toList_ofList, ← behind, ih isWhole] at step
    exact step.trans (occurrence?_lexeme rfl (lexemes left) whole)
  | case4 c rest noQuote isNumber _ ih =>
    obtain ⟨b, bytes, shape, size, kind, -, single⟩ := exists_utf8EncodeChar_cons c
    obtain rfl := single (ofAscii_startsNumber c isNumber)
    have other : IsAscii (· == '"') b = false := (kind _ quote).trans (by simpa using noQuote)
    have starts : IsAscii Lexeme.startsNumber b = true :=
      (kind _ ofAscii_startsNumber).trans isNumber
    have isWhole : source.toList
        = front ++ (Lexeme.number (c :: rest.takeWhile Lexeme.continuesNumber)).chars
          ++ rest.dropWhile Lexeme.continuesNumber := by
      rw [whole, Lexeme.chars, List.append_assoc, List.cons_append, List.takeWhile_append_dropWhile]
    rw [encoded_cons, shape, List.singleton_append, scan?_number other starts,
      ← byteLength_append_run ofAscii_continuesNumber size,
      (takeWhile_encoded ofAscii_continuesNumber rest).2, identifiers_of_none rfl]
    exact ih isWhole
  | case5 c rest noQuote noNumber isWord _ ih =>
    obtain ⟨b, bytes, shape, size, kind, -, single⟩ := exists_utf8EncodeChar_cons c
    obtain rfl := single (ofAscii_startsWord c isWord)
    have other : IsAscii (· == '"') b = false := (kind _ quote).trans (by simpa using noQuote)
    have another : IsAscii Lexeme.startsNumber b = false :=
      (kind _ ofAscii_startsNumber).trans (by simpa using noNumber)
    have starts : IsAscii Lexeme.startsWord b = true := (kind _ ofAscii_startsWord).trans isWord
    have isWhole : source.toList
        = front ++ (c :: rest.takeWhile Lexeme.continuesWord)
          ++ rest.dropWhile Lexeme.continuesWord := by
      rw [whole, List.append_assoc, List.cons_append, List.takeWhile_append_dropWhile]
    have found : (Lexeme.word (c :: rest.takeWhile Lexeme.continuesWord)).identifier?
        = if !isKeyword (c :: rest.takeWhile Lexeme.continuesWord) then
            some (.bare, c :: rest.takeWhile Lexeme.continuesWord)
          else none := by
      cases keyword : isKeyword (c :: rest.takeWhile Lexeme.continuesWord) <;>
        simp [Lexeme.identifier?, keyword]
    rw [encoded_cons, shape, List.singleton_append, scan?_word other another starts
      (byteLength_append_run ofAscii_continuesWord size front rest)
      (slice?_of_append _ _ isWhole), (takeWhile_encoded ofAscii_continuesWord rest).2,
      ih isWhole, String.toList_ofList]
    exact occurrence?_lexeme found (lexemes (rest.dropWhile Lexeme.continuesWord)) whole
  | case6 c rest noQuote noNumber noWord ih =>
    obtain ⟨b, bytes, shape, size, kind, high, -⟩ := exists_utf8EncodeChar_cons c
    have other : IsAscii (· == '"') b = false := (kind _ quote).trans (by simpa using noQuote)
    have another : IsAscii Lexeme.startsNumber b = false :=
      (kind _ ofAscii_startsNumber).trans (by simpa using noNumber)
    have third : IsAscii Lexeme.startsWord b = false :=
      (kind _ ofAscii_startsWord).trans (by simpa using noWord)
    have behind : byteLength front + 1 + bytes.length
        = byteLength (front ++ (Lexeme.other c).chars) := by
      rw [byteLength_append, Lexeme.chars, byteLength, size, byteLength]
      omega
    rw [encoded_cons, shape, List.cons_append, scan?_other other another third, scan?_high high,
      behind, identifiers_of_none rfl]
    apply ih
    rw [whole, Lexeme.chars, List.append_assoc, List.singleton_append]

/-- **All cuts are sound.**  Scanning a template byte by byte never cuts it within a character, in
the wrong order or behind its end, and finds the identifiers of the template. -/
theorem scan?_eq (source : String) :
  scan? source 0 (utf8Bytes source) = some (identifiersOf source.toList)
  := by
  have found : scan? source (byteLength []) (encoded source.toList)
      = some (identifiers (Mark.start.afterAll []) (lexemes source.toList)) := scan?_encoded rfl
  rw [utf8Bytes_eq]
  exact found

end

/-- Behind a backslash the scan stops within a character, but it cuts nothing there. -/
example :
  scan? "\"\\é\",nan" 0 (utf8Bytes "\"\\é\",nan") = some [⟨"nan", .bare, 6, 9, 1, 6⟩]
  := by decide +kernel

end ConfigTemplate
