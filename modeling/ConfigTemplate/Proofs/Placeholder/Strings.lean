import ConfigTemplate.Proofs.Placeholder.Substitution
import Mathlib.Data.List.TakeWhile

/-!
# Strings found by their quotes

The strings of a text can be found without cutting the rest of it into lexemes: outside of a
string every quote opens one.  So if lexemes are replaced by other texts, the strings of what comes
out are known as soon as it is known what string each of the new texts is.
-/

namespace ConfigTemplate

/-- The strings of a text, each with the number of bytes in front of it.  There are none if the
last one is not closed. -/
def stringsFrom (offset : Nat) (cs : List Char) : Option (List (List Char × Nat)) :=
  match cs with
  | [] => some []
  | c :: rest =>
    if c == '"' then
      match closed : Lexeme.closeString rest with
      | none => none
      | some (content, left) =>
        have : left.length < rest.length := Lexeme.length_lt_of_closeString closed
        (stringsFrom (offset + byteLength (Lexeme.quoted content).chars) left).map
          ((content, offset) :: ·)
    else stringsFrom (offset + c.utf8Size) rest
termination_by cs.length
decreasing_by all_goals (simp only [List.length_cons]; omega)

/-- In front of any text `cs` is passed as the given string, or as none. -/
def PassedAs (string? : Option (List Char)) (cs : List Char) : Prop :=
  ∀ offset back, stringsFrom offset (cs ++ back)
    = (stringsFrom (offset + byteLength cs) back).map ((string?.map (·, offset)).toList ++ ·)

theorem passedAs_none {cs : List Char} (noQuote : '"' ∉ cs) :
  PassedAs none cs
  := by
  intro offset back
  induction cs generalizing offset with
  | nil => simp [byteLength]
  | cons c rest ih =>
    rw [List.mem_cons, not_or] at noQuote
    have plain : (c == '"') = false := by simpa using Ne.symm noQuote.1
    rw [List.cons_append, stringsFrom, plain, if_neg Bool.false_ne_true, ih noQuote.2]
    simp [byteLength, Nat.add_assoc]

theorem passedAs_quoted {content : List Char} (closed : Lexeme.isContent content = true) :
  PassedAs (some content) (Lexeme.quoted content).chars
  := by
  intro offset back
  have closes := Lexeme.closeString_append closed back
  simp only [Lexeme.chars, List.cons_append, List.append_assoc, List.nil_append]
  rw [stringsFrom, if_pos (by rfl)]
  split
  · next unclosed => rw [closes] at unclosed; contradiction
  · next inner left split =>
    rw [closes] at split
    obtain ⟨rfl, rfl⟩ := Prod.mk.inj (Option.some.inj split)
    rfl

/-- A string that is not closed is the end of it. -/
theorem stringsFrom_unclosed {rest : List Char} (unclosed : Lexeme.closeString rest = none)
    (offset : Nat) :
  stringsFrom offset ('"' :: rest) = none
  := by
  rw [stringsFrom, if_pos (by rfl)]
  split
  · rfl
  · next split => rw [unclosed] at split; contradiction

/-! ### What lexemes contribute -/

section

variable {β γ : Type}

/-- What texts that are written one after the other contribute, each with the number of bytes in
front of it. -/
def layOut (text : Lexeme → List Char) (part? : Lexeme → Option β) :
    Nat → List Lexeme → List (β × Nat)
  | _, [] => []
  | offset, lexeme :: row =>
    ((part? lexeme).map (·, offset)).toList
      ++ layOut text part? (offset + byteLength (text lexeme)) row

theorem layOut_congr (text : Lexeme → List Char) {part? other? : Lexeme → Option β}
    {row : List Lexeme} (same : ∀ lexeme ∈ row, part? lexeme = other? lexeme) (offset : Nat) :
  layOut text part? offset row = layOut text other? offset row
  := by
  induction row generalizing offset with
  | nil => rfl
  | cons lexeme row ih =>
    rw [List.forall_mem_cons] at same
    rw [layOut, layOut, same.1, ih same.2]

/-- Making something of the contributions, or leaving them out. -/
theorem filterMap_layOut (text : Lexeme → List Char) (part? : Lexeme → Option β)
    (f : β → Option γ) (offset : Nat) (row : List Lexeme) :
  (layOut text part? offset row).filterMap (fun (part, place) => (f part).map (·, place))
    = layOut text (fun lexeme => (part? lexeme).bind f) offset row
  := by
  induction row generalizing offset with
  | nil => rfl
  | cons lexeme row ih =>
    rw [layOut, layOut, List.filterMap_append, ih]
    cases part? lexeme with
    | none => rfl
    | some part => cases made : f part <;> simp [made]

end

/-- The strings of texts that are written one after the other. -/
theorem stringsFrom_flatMap {text : Lexeme → List Char} {string? : Lexeme → Option (List Char)}
    {row : List Lexeme} (passed : ∀ lexeme ∈ row, PassedAs (string? lexeme) (text lexeme))
    (offset : Nat) (back : List Char) :
  stringsFrom offset (row.flatMap text ++ back)
    = (stringsFrom (offset + byteLength (row.flatMap text)) back).map
        (layOut text string? offset row ++ ·)
  := by
  induction row generalizing offset with
  | nil => simp [layOut, byteLength]
  | cons lexeme row ih =>
    rw [List.forall_mem_cons] at passed
    rw [List.flatMap_cons, List.append_assoc, passed.1, ih passed.2, byteLength_append, layOut,
      Option.map_map, Nat.add_assoc]
    simp [Function.comp_def]

/-- A text that is written as closed parts has the strings of these. -/
theorem stringsFrom_eq_some {text : Lexeme → List Char} {string? : Lexeme → Option (List Char)}
    {row : List Lexeme} (passed : ∀ lexeme ∈ row, PassedAs (string? lexeme) (text lexeme))
    (offset : Nat) :
  stringsFrom offset (row.flatMap text) = some (layOut text string? offset row)
  := by
  simpa [stringsFrom] using stringsFrom_flatMap passed offset []

/-! ### The lexemes of a text -/

namespace Lexeme

/-- The string that a lexeme is. -/
def string? : Lexeme → Option (List Char)
  | .quoted content => some content
  | _ => none

/-- The lexeme is a closed string, or has no quotes. -/
def Closed : Lexeme → Prop
  | .quoted content => isContent content = true
  | .unclosed _ => False
  | .number cs | .word cs => '"' ∉ cs
  | .other c => c ≠ '"'

theorem Closed.passedAs {lexeme : Lexeme} (closed : lexeme.Closed) :
  PassedAs lexeme.string? lexeme.chars
  := by
  cases lexeme with
  | quoted content => apply passedAs_quoted closed
  | unclosed => contradiction
  | number cs | word cs => apply passedAs_none closed
  | other c => exact passedAs_none (by simpa [chars] using Ne.symm closed)

theorem isContent_of_closeString {cs content left : List Char}
    (h : closeString cs = some (content, left)) :
  isContent content = true
  := by
  fun_induction closeString cs generalizing content with
  | case1 => simp at h
  | case2 => simp at h
  | case3 c rest ih =>
    obtain ⟨⟨inner, _⟩, closed, same⟩ := Option.map_eq_some_iff.1 h
    obtain ⟨rfl, rfl⟩ := Prod.mk.inj same
    rw [isContent]
    exact ih closed
  | case4 =>
    obtain ⟨rfl, rfl⟩ := Prod.mk.inj (Option.some.inj h)
    rfl
  | case5 c rest notLast notEscape notQuote ih =>
    obtain ⟨⟨inner, _⟩, closed, same⟩ := Option.map_eq_some_iff.1 h
    obtain ⟨rfl, rfl⟩ := Prod.mk.inj same
    have plain := ne_backslash notLast notEscape
    rw [isContent_cons ⟨by simpa using notQuote, plain⟩]
    exact ih closed

end Lexeme

theorem quote_notMem_takeWhile {p : Char → Bool} (h : p '"' = false) (c : Char) (ne : c ≠ '"')
    (rest : List Char) :
  '"' ∉ c :: rest.takeWhile p
  := by
  rw [List.mem_cons, not_or]
  refine ⟨ne.symm, fun mem => ?_⟩
  rw [List.mem_takeWhile_imp mem] at h
  contradiction

/-- Closed lexemes, and a string behind them that is not closed. -/
def Unfinished (row : List Lexeme) : Prop :=
  ∃ front rest, row = front ++ [.unclosed rest] ∧ Lexeme.closeString rest = none
    ∧ ∀ lexeme ∈ front, lexeme.Closed

/-- All lexemes of a text are closed, except perhaps the last one. -/
theorem closed_or_unfinished (source : List Char) :
  (∀ lexeme ∈ lexemes source, lexeme.Closed) ∨ Unfinished (lexemes source)
  := by
  have step {lexeme : Lexeme} {row : List Lexeme} (closed : lexeme.Closed)
      (later : (∀ lexeme ∈ row, lexeme.Closed) ∨ Unfinished row) :
      (∀ other ∈ lexeme :: row, other.Closed) ∨ Unfinished (lexeme :: row) := by
    rcases later with all | ⟨front, rest, rfl, unclosed, all⟩
    · exact .inl (List.forall_mem_cons.2 ⟨closed, all⟩)
    · exact .inr ⟨lexeme :: front, rest, rfl, unclosed, List.forall_mem_cons.2 ⟨closed, all⟩⟩
  fun_induction lexemes source with
  | case1 => exact .inl (List.forall_mem_nil _)
  | case2 c rest quote unclosed =>
    exact .inr ⟨[], rest, rfl, unclosed, List.forall_mem_nil _⟩
  | case3 c rest quote content left closed _ ih =>
    exact step (Lexeme.isContent_of_closeString closed) ih
  | case4 c rest notQuote _ _ ih =>
    exact step (quote_notMem_takeWhile (by decide) c (by simpa using notQuote) rest) ih
  | case5 c rest notQuote _ _ _ ih =>
    exact step (quote_notMem_takeWhile (by decide) c (by simpa using notQuote) rest) ih
  | case6 c rest notQuote _ _ ih =>
    exact step (by simpa [Lexeme.Closed] using notQuote) ih

end ConfigTemplate
