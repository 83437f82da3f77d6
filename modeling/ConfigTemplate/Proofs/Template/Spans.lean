import ConfigTemplate.Proofs.Placeholder.ByteScan
import ConfigTemplate.Proofs.Template.Cutting
import ConfigTemplate.Proofs.Template.Independence
import Mathlib.Data.List.Sort

/-!
# Spans of identifiers

The identifiers of a text have spans that follow each other, and at its span each of them is spelled
as it is named.  So the text can be cut at all of these places, by the scan that finds the
identifiers and by the loop that copies what stands between the placeholders: `spans_sound`.
-/

namespace ConfigTemplate

/-! ### Occurrences in a text -/

/-- The occurrences stand in a text one after the other, each with the span of its characters.  Their
spans count the bytes from the start of what is in front of the text. -/
inductive Laid : List Char → List Char → List Occurrence → Prop
  | nil (front rest : List Char) : Laid front rest []
  | cons {front gap back : List Char} {o : Occurrence} {later : List Occurrence}
    (start : o.start = byteLength (front ++ gap))
    (stop : o.stop = byteLength (front ++ gap ++ o.token))
    (others : Laid (front ++ gap ++ o.token) back later) :
    Laid front (gap ++ (o.token ++ back)) (o :: later)

namespace Laid

variable {front rest : List Char} {occurrences : List Occurrence}

/-- Occurrences in the back of a text stand in the whole text. -/
theorem pass {mid : List Char} (laid : Laid (front ++ mid) rest occurrences) :
  Laid front (mid ++ rest) occurrences
  := by
  cases laid with
  | nil => exact .nil front _
  | cons start stop others =>
    rw [List.append_assoc front] at start stop others
    rw [← List.append_assoc]
    exact .cons start stop others

/-- Some of the occurrences can be left out. -/
theorem filter (laid : Laid front rest occurrences) (keep : Occurrence → Bool) :
  Laid front rest (occurrences.filter keep)
  := by
  induction laid with
  | nil front rest => exact .nil front rest
  | @cons front gap back o later start stop others ih =>
    rw [List.filter_cons]
    split
    · exact .cons start stop ih
    · exact ih.pass.pass

theorem byteLength_le_start (laid : Laid front rest occurrences) :
  ∀ o ∈ occurrences, byteLength front ≤ o.start
  := by
  induction laid with
  | nil => simp
  | @cons front gap back o later start stop others ih =>
    rw [List.forall_mem_cons]
    constructor
    · rw [start, byteLength_append]
      apply Nat.le_add_right
    · intro p mem
      have := ih p mem
      rw [byteLength_append, byteLength_append] at this
      omega

/-- The span of an occurrence has the length of its characters. -/
theorem stop_eq (laid : Laid front rest occurrences) :
  ∀ o ∈ occurrences, o.stop = o.start + byteLength o.token
  := by
  induction laid with
  | nil => simp
  | cons start stop others ih =>
    rw [byteLength_append, ← start] at stop
    exact List.forall_mem_cons.2 ⟨stop, ih⟩

/-- No occurrence starts before the one in front of it has stopped. -/
theorem pairwise (laid : Laid front rest occurrences) :
  occurrences.Pairwise fun o p => o.stop ≤ p.start
  := by
  induction laid with
  | nil => exact .nil
  | cons start stop others ih =>
    refine List.pairwise_cons.2 ⟨?_, ih⟩
    rw [stop]
    exact others.byteLength_le_start

/-- At its span an occurrence is spelled. -/
theorem slice?_eq {source : String} (laid : Laid front rest occurrences)
    (whole : source.toList = front ++ rest) :
  ∀ o ∈ occurrences, slice? source o.start o.stop = some (String.ofList o.token)
  := by
  induction laid with
  | nil => simp
  | @cons front gap back o later start stop others ih =>
    have parts : source.toList = front ++ gap ++ o.token ++ back := by simp [whole]
    rw [List.forall_mem_cons, start, stop]
    exact ⟨slice?_of_append _ _ parts, ih parts⟩

end Laid

/-! ### The identifiers of a text -/

/-- A lexeme that is an identifier has the occurrence of its form and name, with the span of its
characters. -/
theorem exists_identifiers_cons {lexeme : Lexeme} {form : Form} {name : List Char}
    (found : lexeme.identifier? = some (form, name)) (front : List Char) (row : List Lexeme) :
  ∃ o, o.shape = (form, name) ∧ o.token = lexeme.chars
    ∧ o.start = byteLength front ∧ o.stop = byteLength (front ++ lexeme.chars)
    ∧ identifiers (Mark.start.afterAll front) (lexeme :: row)
      = o :: identifiers (Mark.start.afterAll (front ++ lexeme.chars)) row
  := by
  rw [Mark.afterAll_append, identifiers, found]
  refine ⟨_, ?_, (Lexeme.chars_of_identifier? found _ _ _ _).symm, ?_, ?_, rfl⟩
  · simp [Occurrence.shape]
  · simp [Mark.offset_afterAll, Mark.start]
  · simp [Mark.offset_afterAll, Mark.start, byteLength_append]

/-- The identifiers among lexemes stand in the text of the lexemes. -/
theorem laid_identifiers (front : List Char) (row : List Lexeme) :
  Laid front (row.flatMap Lexeme.chars) (identifiers (Mark.start.afterAll front) row)
  := by
  induction row generalizing front with
  | nil => exact .nil front _
  | cons lexeme row ih =>
    have later := ih (front ++ lexeme.chars)
    rw [List.flatMap_cons]
    cases found : lexeme.identifier? with
    | none =>
      rw [identifiers_of_none found]
      exact later.pass
    | some shape =>
      obtain ⟨o, -, token, start, stop, all⟩ := exists_identifiers_cons found front row
      rw [← token] at later stop all
      have placed : Laid front ([] ++ (o.token ++ row.flatMap Lexeme.chars))
          (identifiers (Mark.start.afterAll front) (lexeme :: row)) := by
        rw [all]
        exact .cons (by simpa using start) (by simpa using stop) (by simpa using later)
      rw [← token]
      exact placed

/-- An identifier has the form and the name of a lexeme. -/
theorem exists_lexeme_of_mem_identifiers {front : List Char} {row : List Lexeme} {o : Occurrence}
    (mem : o ∈ identifiers (Mark.start.afterAll front) row) :
  ∃ lexeme ∈ row, lexeme.identifier? = some o.shape ∧ o.token = lexeme.chars
  := by
  induction row generalizing front with
  | nil => simp [identifiers] at mem
  | cons lexeme row ih =>
    cases found : lexeme.identifier? with
    | none =>
      rw [identifiers_of_none found] at mem
      obtain ⟨other, inRow, isOne⟩ := ih mem
      exact ⟨other, List.mem_cons_of_mem lexeme inRow, isOne⟩
    | some shape =>
      obtain ⟨first, isShape, token, -, -, all⟩ := exists_identifiers_cons found front row
      rw [all, List.mem_cons] at mem
      rcases mem with rfl | later
      · exact ⟨lexeme, List.mem_cons_self, found.trans (congrArg some isShape.symm), token⟩
      · obtain ⟨other, inRow, isOne⟩ := ih later
        exact ⟨other, List.mem_cons_of_mem lexeme inRow, isOne⟩

/-- An identifier that is bare is no word of JSON. -/
theorem isKeyword_of_identifier? {lexeme : Lexeme} {name : List Char}
    (found : lexeme.identifier? = some (.bare, name)) :
  isKeyword name = false
  := by
  cases lexeme with
  | quoted content => simp [Lexeme.identifier?] at found
  | word cs =>
    simp only [Lexeme.identifier?, Option.ite_none_left_eq_some, Option.some.injEq,
      Prod.mk.injEq, true_and] at found
    obtain ⟨noKeyword, rfl⟩ := found
    simpa using noKeyword
  | unclosed | number | other => simp [Lexeme.identifier?] at found

section

variable (source : String)

theorem laid_identifiersOf :
  Laid [] source.toList (identifiersOf source.toList)
  := by
  have laid := laid_identifiers [] (lexemes source.toList)
  rwa [flatMap_chars_lexemes] at laid

/-- No identifier is empty, and none that is bare is a word of JSON. -/
theorem proper_of_mem_identifiersOf {o : Occurrence} (mem : o ∈ identifiersOf source.toList) :
  o.token ≠ [] ∧ (o.form = .bare → isKeyword o.name.toList = false)
  := by
  have isOne : o ∈ identifiers (Mark.start.afterAll []) (lexemes source.toList) := mem
  obtain ⟨lexeme, inRow, found, token⟩ := exists_lexeme_of_mem_identifiers isOne
  constructor
  · rw [token]
    exact chars_ne_nil_of_mem_lexemes lexeme inRow
  · intro bare
    rw [Occurrence.shape, bare] at found
    exact isKeyword_of_identifier? found

/-- The span of an identifier is not empty. -/
theorem start_lt_stop_of_mem {o : Occurrence} (mem : o ∈ identifiersOf source.toList) :
  o.start < o.stop
  := by
  have stop := (laid_identifiersOf source).stop_eq o mem
  obtain ⟨c, rest, token⟩ := List.exists_cons_of_ne_nil (proper_of_mem_identifiersOf source mem).1
  have := c.utf8Size_pos
  rw [token, byteLength] at stop
  omega

/-- The placeholders and the stray identifiers, merged by their starts, are the identifiers. -/
theorem merge_placeholdersOf_straysOf :
  (placeholdersOf source.toList).merge (straysOf source.toList) (fun o p => o.start ≤ p.start)
    = identifiersOf source.toList
  := by
  have increasing : (identifiersOf source.toList).Pairwise fun o p => o.start < p.start := by
    apply (laid_identifiersOf source).pairwise.imp_of_mem
    intro o p mem _ apart
    have := start_lt_stop_of_mem source mem
    omega
  have ordered : (identifiersOf source.toList).Pairwise fun o p =>
      decide (o.start ≤ p.start) = true := by
    apply increasing.imp
    intro o p less
    simpa using Nat.le_of_lt less
  have merged : ((placeholdersOf source.toList).merge (straysOf source.toList)
      (fun o p => o.start ≤ p.start)).Pairwise fun o p => decide (o.start ≤ p.start) = true := by
    apply List.pairwise_merge _ _ _ _ (ordered.filter _) (ordered.filter _)
    · simp only [decide_eq_true_eq]
      omega
    · simp only [Bool.or_eq_true, decide_eq_true_eq]
      omega
  have perm : ((placeholdersOf source.toList).merge (straysOf source.toList)
      (fun o p => o.start ≤ p.start)).Perm (identifiersOf source.toList) :=
    (List.merge_perm_append _).trans (List.filter_append_perm _ _)
  apply perm.eq_of_pairwise _ merged ordered
  intro o p isOne isOther before behind
  by_contra different
  have apart : (identifiersOf source.toList).Pairwise fun o p => o.start ≠ p.start :=
    increasing.imp Nat.ne_of_lt
  have : Std.Symm fun o p : Occurrence => o.start ≠ p.start := ⟨fun _ _ => Ne.symm⟩
  have := apart.forall (perm.subset isOne) isOther different
  simp only [decide_eq_true_eq] at before behind
  omega

end

/-! ### Copying -/

/-- The loop that copies a template and writes values in the places of occurrences.  It cuts the
template from the cursor up to the next occurrence, and at last from the cursor up to the end. -/
def Bindings.copy? (b : Bindings) (source : String) (cursor : Nat) :
    List Occurrence → Option (Except Error (List Char))
  | [] => (slice? source cursor source.utf8ByteSize).map fun rest => .ok rest.toList
  | o :: later =>
    match b.get? o.name with
    | none => some (.error (.missingBindings [o.name]))
    | some v => do
      let gap ← slice? source cursor o.start
      let copied ← b.copy? source o.stop later
      return copied.map fun chars => gap.toList ++ v.writtenAs o.form ++ chars

/-- All cuts of the loop are sound if the occurrences stand in the template, and what the loop gives
is what writing the values lexeme by lexeme gives. -/
theorem Bindings.copy?_eq (b : Bindings) {source : String} {front rest : List Char}
    {occurrences : List Occurrence} (laid : Laid front rest occurrences)
    (whole : source.toList = front ++ rest) :
  b.copy? source (byteLength front) occurrences
    = some (b.splice (byteLength front) rest occurrences)
  := by
  induction laid with
  | nil front rest =>
    have cut := slice?_of_append front rest (whole.trans (List.append_nil _).symm)
    rw [← whole, byteLength_toList] at cut
    rw [copy?, cut, splice]
    simp
  | @cons front gap back o later start stop others ih =>
    have parts : source.toList = front ++ gap ++ o.token ++ back := by simp [whole]
    rw [copy?, splice]
    cases b.get? o.name with
    | none => rfl
    | some v =>
      have cut : slice? source (byteLength front) o.start = some (String.ofList gap) := by
        rw [start]
        exact slice?_of_append front gap (parts.trans (List.append_assoc ..))
      have before : o.start - byteLength front = byteLength gap := by
        rw [start, byteLength_append]
        omega
      have inside : o.stop - o.start = byteLength o.token := by
        rw [start, stop, byteLength_append _ o.token]
        omega
      have next := ih parts
      rw [← stop] at next
      simp only [cut, next, before, inside, splitBytes_append]
      simp

/-- **Spans are sound.**  Whatever the source is: the placeholders and the stray identifiers, merged
by their starts, stand one after the other and do not overlap.  Each span is not empty and in the
source, the source can be cut at both of its ends, and what is cut out is the name, in quotes for a
quoted placeholder; no bare identifier is a word of JSON.  All cuts succeed that the scan of the
bytes makes, and so do those that copying the source around its placeholders makes. -/
theorem spans_sound (source : String) :
  ((placeholdersOf source.toList).merge (straysOf source.toList)
      (fun o p => o.start ≤ p.start)).Pairwise (fun o p => o.start < p.start ∧ o.stop ≤ p.start) ∧
  (∀ o ∈ (placeholdersOf source.toList).merge (straysOf source.toList)
      (fun o p => o.start ≤ p.start),
    o.start < o.stop ∧ o.stop ≤ source.utf8ByteSize ∧
    IsBoundary source o.start ∧ IsBoundary source o.stop ∧
    (slice? source o.start o.stop = match o.form with
      | .bare => some o.name
      | .quoted => some ("\"" ++ o.name ++ "\"")) ∧
    (o.form = .bare → o.name ∉ ["true", "false", "null"])) ∧
  scan? source 0 (utf8Bytes source) = some (identifiersOf source.toList) ∧
  ∀ b : Bindings, b.copy? source 0 (placeholdersOf source.toList)
    = some (b.splice 0 source.toList (placeholdersOf source.toList))
  := by
  rw [merge_placeholdersOf_straysOf]
  have laid := laid_identifiersOf source
  refine ⟨?_, ?_, scan?_eq source, fun b => b.copy?_eq (laid.filter _) rfl⟩
  · apply laid.pairwise.imp_of_mem
    intro o p mem _ apart
    have := start_lt_stop_of_mem source mem
    omega
  · intro o mem
    have cut := laid.slice?_eq rfl o mem
    obtain ⟨-, inSource, first, last⟩ := bounds_of_slice? cut
    refine ⟨start_lt_stop_of_mem source mem, inSource, first, last, ?_, ?_⟩
    · rw [cut, Occurrence.token]
      cases o.form with
      | bare => simp
      | quoted =>
        congr 1
        apply String.toList_inj.1
        simp
    · intro bare
      have noKeyword := (proper_of_mem_identifiersOf source mem).2 bare
      simp only [isKeyword, Bool.or_eq_false_iff, beq_eq_false_iff_ne, ne_eq,
        String.toList_inj] at noKeyword
      simpa [and_assoc] using noKeyword

end ConfigTemplate
