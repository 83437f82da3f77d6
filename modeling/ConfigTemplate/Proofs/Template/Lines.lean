import ConfigTemplate.Proofs.Template.Spans
import Mathlib.Data.Prod.Lex

/-!
# Lines and columns

The place of an identifier is counted while its template is read, in bytes, lines and columns at
once.  The line and the column say as much as the bytes do: whoever cuts the template into lines,
goes to that line and passes over the characters in front of that column, is where the span of the
identifier starts, and nowhere else.  So identifiers that follow each other have increasing places:
`places_located`.
-/

namespace ConfigTemplate

/-! ### Places in lines -/

/-- What stands in front of a place: the lines above it, each with its line feed, and the front of
its own line. -/
def frontAt (above : List (List Char)) (before : List Char) : List Char :=
  above.flatMap (· ++ ['\n']) ++ before

/-- The number of bytes in front of a column of a line of a text: those of the lines in front of it,
with their line feeds, and those of the characters in front of the column.  Lines and columns are
counted from one, and the last column of a line is the one behind its characters. -/
def byteAt? (cs : List Char) (line column : Nat) : Option Nat :=
  match line, column with
  | line + 1, column + 1 => do
    let lines := cs.splitOn '\n'
    let own ← lines[line]?
    if column ≤ own.length then some (byteLength (frontAt (lines.take line) (own.take column)))
    else none
  | _, _ => none

theorem exists_of_byteAt? {cs : List Char} {line column offset : Nat}
    (found : byteAt? cs line column = some offset) :
  ∃ above before own, line = above + 1 ∧ column = before + 1
    ∧ (cs.splitOn '\n')[above]? = some own ∧ before ≤ own.length
    ∧ offset = byteLength (frontAt ((cs.splitOn '\n').take above) (own.take before))
  := by
  cases line with
  | zero => simp [byteAt?] at found
  | succ above =>
    cases column with
    | zero => simp [byteAt?] at found
    | succ before =>
      obtain ⟨own, isOwn, inside⟩ := Option.bind_eq_some_iff.1 found
      obtain ⟨inLine, bytes⟩ := Option.ite_none_right_eq_some.1 inside
      exact ⟨above, before, own, rfl, rfl, isOwn, inLine, (Option.some.inj bytes).symm⟩

theorem byteLength_pos {cs : List Char} (nonempty : cs ≠ []) :
  0 < byteLength cs
  := by
  obtain ⟨c, rest, rfl⟩ := List.exists_cons_of_ne_nil nonempty
  exact Nat.lt_of_lt_of_le c.utf8Size_pos (Nat.le_add_right _ _)

theorem exists_split_of_getElem? {lines : List (List Char)} {above : Nat} {own : List Char}
    (isOwn : lines[above]? = some own) :
  ∃ up down, lines = up ++ own :: down ∧ up.length = above
  := by
  obtain ⟨inText, rfl⟩ := List.getElem?_eq_some_iff.1 isOwn
  refine ⟨lines.take above, lines.drop (above + 1), ?_, List.length_take_of_le inText.le⟩
  rw [← List.drop_eq_getElem_cons inText, List.take_append_drop]

/-- More stands in front of a place that is further down or further along. -/
theorem exists_frontAt_append {lines : List (List Char)} {above before above' before' : Nat}
    {own own' : List Char} (isOwn : lines[above]? = some own) (isOwn' : lines[above']? = some own')
    (inLine' : before' ≤ own'.length)
    (later : above < above' ∨ (above = above' ∧ before < before')) :
  ∃ more, more ≠ [] ∧ frontAt (lines.take above') (own'.take before')
    = frontAt (lines.take above) (own.take before) ++ more
  := by
  rcases later with lower | ⟨rfl, further⟩
  · obtain ⟨up, down, rfl, rfl⟩ := exists_split_of_getElem? isOwn
    obtain ⟨between, rfl⟩ := Nat.exists_eq_add_of_lt lower
    use own.drop before ++ '\n' :: frontAt (down.take between) (own'.take before')
    rw [List.take_left, Nat.add_assoc, List.take_length_add_append, List.take_succ_cons]
    simp only [frontAt, List.flatMap_append, List.flatMap_cons, List.append_assoc]
    rw [← List.append_assoc (own.take before), List.take_append_drop]
    simp
  · obtain rfl := Option.some.inj (isOwn.symm.trans isOwn')
    obtain ⟨between, rfl⟩ := Nat.exists_eq_add_of_lt further
    use (own.drop before).take (between + 1)
    have nonempty : (own.drop before).take (between + 1) ≠ [] := by
      rw [ne_eq, List.take_eq_nil_iff, List.drop_eq_nil_iff]
      omega
    refine ⟨nonempty, ?_⟩
    rw [frontAt, frontAt, List.append_assoc, ← List.take_add]
    rfl

/-- A later line or column is behind more bytes. -/
theorem byteAt?_strictMono {cs : List Char} {line column line' column' offset offset' : Nat}
    (at? : byteAt? cs line column = some offset) (at?' : byteAt? cs line' column' = some offset')
    (later : toLex (line, column) < toLex (line', column')) :
  offset < offset'
  := by
  obtain ⟨above, before, own, rfl, rfl, isOwn, -, rfl⟩ := exists_of_byteAt? at?
  obtain ⟨above', before', own', rfl, rfl, isOwn', inLine', rfl⟩ := exists_of_byteAt? at?'
  have behind : above < above' ∨ (above = above' ∧ before < before') := by
    simpa [Prod.Lex.toLex_lt_toLex] using later
  obtain ⟨more, nonempty, whole⟩ := exists_frontAt_append isOwn isOwn' inLine' behind
  rw [whole, byteLength_append]
  exact Nat.lt_add_of_pos_right (byteLength_pos nonempty)

/-- A place is found at one line and column only. -/
theorem byteAt?_unique {cs : List Char} {line column line' column' offset : Nat}
    (at? : byteAt? cs line column = some offset) (at?' : byteAt? cs line' column' = some offset) :
  line' = line ∧ column' = column
  := by
  rcases lt_trichotomy (toLex (line, column)) (toLex (line', column')) with before | same | behind
  · exact absurd (byteAt?_strictMono at? at?' before) (Nat.lt_irrefl _)
  · simpa [eq_comm] using same
  · exact absurd (byteAt?_strictMono at?' at? behind) (Nat.lt_irrefl _)

/-! ### Places of identifiers -/

/-- What has no line feed is in front of the first line. -/
theorem splitOn_append_of_notMem {front back head : List Char} {tail : List (List Char)}
    (sameLine : '\n' ∉ front) (lines : back.splitOn '\n' = head :: tail) :
  (front ++ back).splitOn '\n' = (front ++ head) :: tail
  := by
  induction front with
  | nil => exact lines
  | cons c rest ih =>
    rw [List.mem_cons, not_or] at sameLine
    rw [List.cons_append, List.splitOn_cons_eq_if_modifyHead, ih sameLine.2]
    simp [Ne.symm sameLine.1]

/-- The place behind a text counts the lines above it and the characters in front of it in its own
line.  What comes behind the text goes on with this line. -/
theorem exists_lines_afterAll (front : List Char) :
  ∃ above before, '\n' ∉ before
    ∧ Mark.start.afterAll front
      = ⟨byteLength (frontAt above before), above.length + 1, before.length + 1⟩
    ∧ ∀ back, (front ++ back).splitOn '\n' = above ++ (before ++ back).splitOn '\n'
  := by
  induction front using List.reverseRecOn with
  | nil => exact ⟨[], [], List.not_mem_nil, rfl, fun _ => rfl⟩
  | append_singleton front c ih =>
    obtain ⟨above, before, sameLine, mark, lines⟩ := ih
    have next : Mark.start.afterAll (front ++ [c]) = (Mark.start.afterAll front).after c :=
      List.foldl_append
    rw [next, mark, Mark.after]
    -- a line feed closes the line in front of it, any other character goes on with that line
    by_cases newline : c = '\n'
    · subst newline
      refine ⟨above ++ [before], [], List.not_mem_nil, ?_, ?_⟩
      · simp [frontAt, byteLength_append, byteLength]
        omega
      · intro back
        rw [List.append_assoc, List.singleton_append, lines,
          List.splitOn_append_cons_self_of_not_mem sameLine, List.append_assoc]
        rfl
    · refine ⟨above, before ++ [c], ?_, ?_, ?_⟩
      · simp [sameLine, Ne.symm newline]
      · simp [newline, frontAt, byteLength_append, byteLength]
        omega
      · intro back
        rw [List.append_assoc, lines, List.append_assoc]

/-- The place behind the front of a text is where its line and its column are. -/
theorem byteAt?_afterAll (front back : List Char) :
  byteAt? (front ++ back) (Mark.start.afterAll front).line (Mark.start.afterAll front).column
    = some (byteLength front)
  := by
  obtain ⟨above, before, sameLine, mark, lines⟩ := exists_lines_afterAll front
  obtain ⟨head, tail, split⟩ := List.exists_cons_of_ne_nil (List.splitOn_ne_nil '\n' back)
  have offset : byteLength front = byteLength (frontAt above before) :=
    congrArg Mark.offset ((Mark.afterAll_start front).symm.trans mark)
  rw [mark, offset, byteAt?, lines, splitOn_append_of_notMem sameLine split]
  simp

/-- An identifier among lexemes is behind the front of their text, and its place is the place behind
that. -/
theorem exists_front_of_mem_identifiers {front : List Char} {row : List Lexeme} {o : Occurrence}
    (mem : o ∈ identifiers (Mark.start.afterAll front) row) :
  ∃ gap back, row.flatMap Lexeme.chars = gap ++ back
    ∧ Mark.start.afterAll (front ++ gap) = ⟨o.start, o.line, o.column⟩
  := by
  induction row generalizing front with
  | nil => simp [identifiers] at mem
  | cons lexeme row ih =>
    have later (isLater : o ∈ identifiers (Mark.start.afterAll (front ++ lexeme.chars)) row) :
        ∃ gap back, (lexeme :: row).flatMap Lexeme.chars = gap ++ back
          ∧ Mark.start.afterAll (front ++ gap) = ⟨o.start, o.line, o.column⟩ := by
      obtain ⟨gap, back, text, mark⟩ := ih isLater
      refine ⟨lexeme.chars ++ gap, back, ?_, ?_⟩
      · rw [List.flatMap_cons, text, List.append_assoc]
      · rw [← List.append_assoc, mark]
    cases found : lexeme.identifier? with
    | none =>
      rw [identifiers_of_none found] at mem
      exact later mem
    | some shape =>
      rw [identifiers, found, List.mem_cons, ← Mark.afterAll_append] at mem
      rcases mem with rfl | isLater
      · exact ⟨[], _, rfl, by rw [List.append_nil]⟩
      · exact later isLater

section

variable (source : String)

/-- An identifier is at its line and column. -/
theorem byteAt?_of_mem_identifiersOf {o : Occurrence} (mem : o ∈ identifiersOf source.toList) :
  byteAt? source.toList o.line o.column = some o.start
  := by
  have isOne : o ∈ identifiers (Mark.start.afterAll []) (lexemes source.toList) := mem
  obtain ⟨gap, back, text, mark⟩ := exists_front_of_mem_identifiers isOne
  rw [flatMap_chars_lexemes] at text
  rw [List.nil_append] at mark
  have start : byteLength gap = o.start :=
    congrArg Mark.offset ((Mark.afterAll_start gap).symm.trans mark)
  have found := byteAt?_afterAll gap back
  rwa [← text, mark, start] at found

/-- Of two identifiers the later one is further down, or further along in the same line. -/
theorem increasing_identifiersOf :
  (identifiersOf source.toList).Pairwise fun o p =>
    toLex (o.line, o.column) < toLex (p.line, p.column)
  := by
  apply (laid_identifiersOf source).pairwise.imp_of_mem
  intro o p mem mem' apart
  have starts : o.start < p.start :=
    Nat.lt_of_lt_of_le (start_lt_stop_of_mem source mem) apart
  have at? := byteAt?_of_mem_identifiersOf source mem
  have at?' := byteAt?_of_mem_identifiersOf source mem'
  -- places in the other order, or the same place, would have starts in the other order
  by_contra notBefore
  rcases (not_lt.1 notBefore).lt_or_eq with behind | same
  · exact Nat.lt_asymm starts (byteAt?_strictMono at?' at? behind)
  · simp only [toLex_inj, Prod.mk.injEq] at same
    rw [same.1, same.2, at?] at at?'
    exact Nat.ne_of_lt starts (Option.some.inj at?')

end

/-- **Lines and columns are places.**  Whatever the source is, the span of a placeholder or a stray
identifier starts at its line and column, and at no other: the source is cut at its line feeds, and
the characters in front of the column are passed over.  The lines and columns of the placeholders
increase from each to the next, and so do those of the stray identifiers, and those of both merged
by their starts. -/
theorem places_located (source : String) :
  (∀ o ∈ placeholdersOf source.toList ++ straysOf source.toList, ∀ line column,
    byteAt? source.toList line column = some o.start ↔ line = o.line ∧ column = o.column) ∧
  ∀ occurrences ∈ [placeholdersOf source.toList, straysOf source.toList,
      (placeholdersOf source.toList).merge (straysOf source.toList)
        (fun o p => o.start ≤ p.start)],
    occurrences.Pairwise fun o p => toLex (o.line, o.column) < toLex (p.line, p.column)
  := by
  rw [merge_placeholdersOf_straysOf]
  have increasing := increasing_identifiersOf source
  constructor
  · intro o isOne line column
    have mem : o ∈ identifiersOf source.toList :=
      (List.filter_append_perm _ _).subset isOne
    have at? := byteAt?_of_mem_identifiersOf source mem
    constructor
    · intro same
      exact byteAt?_unique at? same
    · rintro ⟨rfl, rfl⟩
      exact at?
  · simp only [List.forall_mem_cons, List.not_mem_nil, false_imp_iff, implies_true, and_true]
    exact ⟨increasing.filter _, increasing.filter _, increasing⟩

end ConfigTemplate
