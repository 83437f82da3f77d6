import ConfigTemplate.Proofs.Placeholder.Name
import ConfigTemplate.Template.Render
import Mathlib.Data.List.Basic

/-!
# Substitution lexeme by lexeme

The values of placeholders are written into a template between byte offsets.  Seen from the
lexemes this is a map: every lexeme that is a bound placeholder becomes its value, and every other
lexeme stays.
-/

namespace ConfigTemplate

/-- The number of bytes of a list of characters. -/
def byteLength : List Char → Nat
  | [] => 0
  | c :: rest => c.utf8Size + byteLength rest

theorem byteLength_append (front back : List Char) :
  byteLength (front ++ back) = byteLength front + byteLength back
  := by
  induction front with
  | nil => simp [byteLength]
  | cons c rest ih =>
    rw [List.cons_append, byteLength, byteLength, ih]
    omega

/-- Splitting behind the bytes of a front gives that front. -/
theorem splitBytes_append (front back : List Char) :
  Text.splitBytes (byteLength front) (front ++ back) = (front, back)
  := by
  induction front with
  | nil => cases back <;> rfl
  | cons c rest ih =>
    have wide : 0 < c.utf8Size := c.utf8Size_pos
    obtain ⟨n, size⟩ : ∃ n, byteLength (c :: rest) = n + 1 := by
      use c.utf8Size + byteLength rest - 1
      rw [byteLength]
      omega
    have left : n + 1 - c.utf8Size = byteLength rest := by
      rw [← size]
      simp [byteLength]
    rw [size, List.cons_append, Text.splitBytes, left, ih]

theorem Mark.offset_afterAll (m : Mark) (cs : List Char) :
  (m.afterAll cs).offset = m.offset + byteLength cs
  := by
  induction cs generalizing m with
  | nil => rfl
  | cons c rest ih =>
    have step : (m.after c).offset = m.offset + c.utf8Size := by
      unfold Mark.after
      split <;> rfl
    have := ih (m.after c)
    simp only [Mark.afterAll, List.foldl_cons, byteLength] at this ⊢
    omega

/-! ### Placeholders among lexemes -/

/-- The form and name of the placeholder that a lexeme is. -/
def Lexeme.placeholder? : Lexeme → Option (Form × List Char)
  | .quoted content => if isPlaceholderName content then some (.quoted, content) else none
  | .word chars => if isPlaceholderName chars then some (.bare, chars) else none
  | _ => none

/-- The form and name of a placeholder or stray identifier. -/
def Occurrence.shape (o : Occurrence) : Form × List Char := (o.form, o.name.toList)

theorem Lexeme.placeholder?_of_identifier? {lexeme : Lexeme} {form : Form} {name : List Char}
    (h : lexeme.identifier? = some (form, name)) :
  lexeme.placeholder?
    = if form == .quoted || isPlaceholderName name then some (form, name) else none
  := by
  cases lexeme with
  | quoted content =>
    simp only [identifier?] at h
    split at h
    · next isName =>
      obtain ⟨rfl, rfl⟩ := Prod.mk.inj (Option.some.inj h)
      simp [placeholder?, isName]
    · simp at h
  | word chars =>
    simp only [identifier?] at h
    split at h
    · simp at h
    · obtain ⟨rfl, rfl⟩ := Prod.mk.inj (Option.some.inj h)
      simp [placeholder?]
  | unclosed | number | other => simp [identifier?] at h

theorem Lexeme.placeholder?_of_none {lexeme : Lexeme} (h : lexeme.identifier? = none) :
  lexeme.placeholder? = none
  := by
  cases lexeme with
  | quoted content =>
    simp only [identifier?, ite_eq_right_iff, reduceCtorEq, imp_false] at h
    simp [placeholder?, h]
  | word chars =>
    have keyword : isKeyword chars = true := by simpa [identifier?] using h
    simp [placeholder?, isPlaceholderName_of_isKeyword keyword]
  | unclosed | number | other => rfl

/-- The placeholders among the identifiers, one lexeme at a time. -/
theorem filter_identifiers_cons (m : Mark) (lexeme : Lexeme) (row : List Lexeme) :
  (identifiers m (lexeme :: row)).filter Occurrence.isPlaceholder
    = match lexeme.placeholder? with
      | some (form, name) =>
        ⟨String.ofList name, form, m.offset, (m.afterAll lexeme.chars).offset, m.line, m.column⟩
          :: (identifiers (m.afterAll lexeme.chars) row).filter Occurrence.isPlaceholder
      | none => (identifiers (m.afterAll lexeme.chars) row).filter Occurrence.isPlaceholder
  := by
  cases found : lexeme.identifier? with
  | none => simp [identifiers, found, Lexeme.placeholder?_of_none found]
  | some shape =>
    obtain ⟨form, name⟩ := shape
    rw [Lexeme.placeholder?_of_identifier? found]
    simp only [identifiers, found, List.filter_cons, Occurrence.isPlaceholder, String.toList_ofList]
    split
    · rfl
    · rfl

/-- The placeholders of a template are those of its lexemes. -/
theorem map_shape_identifiers (m : Mark) (row : List Lexeme) :
  ((identifiers m row).filter Occurrence.isPlaceholder).map Occurrence.shape
    = row.filterMap Lexeme.placeholder?
  := by
  induction row generalizing m with
  | nil => rfl
  | cons lexeme row ih =>
    rw [filter_identifiers_cons, List.filterMap_cons]
    cases lexeme.placeholder? with
    | none => apply ih
    | some shape => simp [Occurrence.shape, ih]

/-- Where every identifier is a placeholder there is no stray one. -/
theorem filter_strays_eq_nil (m : Mark) {row : List Lexeme}
    (h : ∀ lexeme ∈ row, lexeme.identifier? = lexeme.placeholder?) :
  (identifiers m row).filter (!·.isPlaceholder) = []
  := by
  induction row generalizing m with
  | nil => rfl
  | cons lexeme row ih =>
    rw [List.forall_mem_cons] at h
    have later := ih (m.afterAll lexeme.chars) h.2
    cases found : lexeme.identifier? with
    | none => simpa [identifiers, found] using later
    | some shape =>
      obtain ⟨form, name⟩ := shape
      have isPlaceholder : (form == .quoted || isPlaceholderName name) = true := by
        have := Lexeme.placeholder?_of_identifier? found
        rw [← h.1, found] at this
        by_contra notOne
        simp [notOne] at this
      have : Occurrence.isPlaceholder ⟨String.ofList name, form, m.offset,
          (m.afterAll lexeme.chars).offset, m.line, m.column⟩ = true := by
        rw [Occurrence.isPlaceholder, String.toList_ofList]
        exact isPlaceholder
      simpa [identifiers, found, this] using later

/-- The name of the placeholder that a lexeme is, if it is one. -/
def Lexeme.names (lexeme : Lexeme) : List String :=
  (lexeme.placeholder?.map fun (_, name) => String.ofList name).toList

/-! ### The loop over the occurrences -/

namespace Bindings

/-- A lexeme with its value in its place, if it is a bound placeholder. -/
def written (b : Bindings) (lexeme : Lexeme) : List Char :=
  match lexeme.placeholder? with
  | none => lexeme.chars
  | some (form, name) =>
    match b.get? (String.ofList name) with
    | none => lexeme.chars
    | some v => v.writtenAs form

/-- Every placeholder of the lexemes has a value. -/
def Covers (b : Bindings) (row : List Lexeme) : Prop :=
  ∀ lexeme ∈ row, ∀ form name, lexeme.placeholder? = some (form, name) →
    b.contains (String.ofList name) = true

/-- The loop writes the lexemes one after the other.  It stands at `cursor`, with a gap already
passed over in front of the lexemes. -/
theorem splice_identifiers (b : Bindings) {row : List Lexeme} (covered : b.Covers row) {m : Mark}
    {cursor : Nat} {gap : List Char} (place : m.offset = cursor + byteLength gap) :
  b.splice cursor (gap ++ row.flatMap Lexeme.chars)
      ((identifiers m row).filter Occurrence.isPlaceholder)
    = .ok (gap ++ row.flatMap b.written)
  := by
  induction row generalizing m cursor gap with
  | nil => simp [identifiers, splice]
  | cons lexeme row ih =>
    rw [filter_identifiers_cons]
    have later : b.Covers row := fun l mem => covered l (List.mem_cons_of_mem lexeme mem)
    cases found : lexeme.placeholder? with
    | none =>
      have same : b.written lexeme = lexeme.chars := by rw [written, found]
      have behind : (m.afterAll lexeme.chars).offset
          = cursor + byteLength (gap ++ lexeme.chars) := by
        rw [Mark.offset_afterAll, byteLength_append]
        omega
      simpa [same] using ih later behind
    | some shape =>
      obtain ⟨form, name⟩ := shape
      obtain ⟨v, bound⟩ : ∃ v, b.get? (String.ofList name) = some v := by
        apply Option.isSome_iff_exists.1
        apply covered lexeme List.mem_cons_self form name found
      have written : b.written lexeme = v.writtenAs form := by rw [written, found]; simp [bound]
      have before : m.offset - cursor = byteLength gap := by omega
      have inside : (m.afterAll lexeme.chars).offset - m.offset = byteLength lexeme.chars := by
        rw [Mark.offset_afterAll]
        omega
      have behind : (m.afterAll lexeme.chars).offset
          = (m.afterAll lexeme.chars).offset + byteLength [] := rfl
      have next := ih later behind
      rw [List.nil_append] at next
      simp only [splice, bound, before, inside, List.flatMap_cons, splitBytes_append, next,
        Except.map, written, List.nil_append, List.append_assoc]

end Bindings

namespace Template

/-- The lexemes of a template. -/
abbrev row (t : Template) : List Lexeme := lexemes t.source.toList

theorem map_shape_occurrences (t : Template) :
  t.occurrences.map Occurrence.shape = t.row.filterMap Lexeme.placeholder?
  := map_shape_identifiers .start t.row

/-- The names at the occurrences of the placeholders, with repetitions. -/
def usedNames (t : Template) : List String := t.occurrences.map (·.name)

theorem usedNames_eq (t : Template) :
  t.usedNames = t.row.flatMap Lexeme.names
  := by
  have byShape : t.usedNames = (t.occurrences.map Occurrence.shape).map fun (_, name) =>
      String.ofList name := by
    simp [usedNames, Occurrence.shape]
  rw [byShape, map_shape_occurrences, List.map_filterMap, List.filterMap_eq_flatMap_toList]
  rfl

/-- The bindings cover the lexemes of a template if its occurrences have values. -/
theorem covers_iff (t : Template) (b : Bindings) :
  b.Covers t.row ↔ ∀ o ∈ t.occurrences, b.contains o.name = true
  := by
  have mem (form : Form) (name : List Char) :
      (form, name) ∈ t.occurrences.map Occurrence.shape
        ↔ ∃ lexeme ∈ t.row, lexeme.placeholder? = some (form, name) := by
    rw [map_shape_occurrences, List.mem_filterMap]
  constructor
  · intro covered o isOne
    obtain ⟨lexeme, inRow, found⟩ := (mem _ _).1 (List.mem_map_of_mem isOne)
    simpa using covered lexeme inRow _ _ found
  · intro bound lexeme inRow form name found
    obtain ⟨o, isOne, same⟩ := List.mem_map.1 ((mem form name).2 ⟨lexeme, inRow, found⟩)
    obtain ⟨rfl, rfl⟩ := Prod.mk.inj same
    simpa using bound o isOne

/-- The loop over the occurrences replaces one lexeme after the other. -/
theorem substituted_eq (t : Template) {b : Bindings} (covered : b.Covers t.row) :
  t.substituted b = .ok (t.row.flatMap b.written)
  := by
  have start : Mark.start.offset = 0 + byteLength [] := rfl
  have whole := b.splice_identifiers covered start
  rw [List.nil_append, List.nil_append, flatMap_chars_lexemes] at whole
  exact whole

end Template

end ConfigTemplate
