import ConfigTemplate.Proofs.Dictionary
import ConfigTemplate.Proofs.Placeholder.FirstAppearance
import ConfigTemplate.Proofs.Placeholder.Substitution
import ConfigTemplate.Proofs.Text.ByteOrder
import Mathlib.Data.List.Sort

/-!
# The outcome of rendering

Rendering is refused for one of four reasons, and these are tried in a fixed order.  The relation
`Outcome` states for each result when it is the one that is due; `render_eq_iff` is the fact that
rendering has this result and no other.
-/

namespace ConfigTemplate

theorem FirstAppearance.eq_nil_iff {all names : List String} (h : FirstAppearance all names) :
  names = [] ↔ all = []
  := by
  simp only [List.eq_nil_iff_forall_not_mem, h.mem_iff]

/-- The names of a list have one order of first appearance. -/
theorem FirstAppearance.unique {all names others : List String} (h : FirstAppearance all names)
    (h' : FirstAppearance all others) :
  names = others
  := by
  have : Std.Antisymm fun a b : String => all.idxOf a < all.idxOf b :=
    ⟨fun _ _ less more => absurd less (Nat.lt_asymm more)⟩
  have : Std.Irrefl fun a b : String => all.idxOf a < all.idxOf b :=
    ⟨fun _ => Nat.lt_irrefl _⟩
  apply h.ordered.eq_of_mem_iff h'.ordered
  intro name
  rw [h.mem_iff, h'.mem_iff]

/-- Names in the order of their bytes are determined by what names there are. -/
theorem eq_of_byteOrder {names others : List String}
    (h : names.Pairwise fun a b => utf8Bytes a < utf8Bytes b)
    (h' : others.Pairwise fun a b => utf8Bytes a < utf8Bytes b)
    (same : ∀ name, name ∈ names ↔ name ∈ others) :
  names = others
  := by
  have : Std.Antisymm fun a b : String => utf8Bytes a < utf8Bytes b :=
    ⟨fun _ _ less more => absurd less (List.lt_asymm more)⟩
  have : Std.Irrefl fun a b : String => utf8Bytes a < utf8Bytes b :=
    ⟨fun _ => List.lt_irrefl _⟩
  exact h.eq_of_mem_iff h' same

namespace Template

/-- The names at the places of stray identifiers, with repetitions. -/
def strayNames (t : Template) : List String := (straysOf t.source.toList).map (·.name)

/-- The text that is put together from the lexemes and the values. -/
def filledChars (t : Template) (b : Bindings) : List Char := t.row.flatMap b.written

/-- Nothing speaks against putting the values in. -/
structure Ready (t : Template) (b : Bindings) (mode : RenderMode) : Prop where
  noStrays : t.strayNames = []
  bound : ∀ name ∈ t.usedNames, b.contains name = true
  known : mode.strict = true → ∀ name, b.contains name = true → name ∈ t.usedNames

/-- The result that is due: each refusal has the reasons before it excluded. -/
inductive Outcome (t : Template) (b : Bindings) (mode : RenderMode) :
    Except Error Rendered → Prop where
  | strayIdentifiers (names : List String)
    (strays : t.strayNames ≠ [])
    (listed : FirstAppearance t.strayNames names) :
    Outcome t b mode (.error (.strayIdentifiers names))
  | missingBindings (names : List String)
    (noStrays : t.strayNames = [])
    (unbound : ∃ name ∈ t.usedNames, b.contains name = false)
    (listed : FirstAppearance (t.usedNames.filter (!b.contains ·)) names) :
    Outcome t b mode (.error (.missingBindings names))
  | unknownBindings (names : List String)
    (noStrays : t.strayNames = [])
    (bound : ∀ name ∈ t.usedNames, b.contains name = true)
    (strict : mode.strict = true)
    (unknown : ∃ name, b.contains name = true ∧ name ∉ t.usedNames)
    (listed : ∀ name, name ∈ names ↔ b.contains name = true ∧ name ∉ t.usedNames)
    (ordered : names.Pairwise fun a b => utf8Bytes a < utf8Bytes b) :
    Outcome t b mode (.error (.unknownBindings names))
  | invalidJson (fault : Json.Fault)
    (ready : t.Ready b mode)
    (refused : (Json.Document.ofChars (t.filledChars b)).toValue = .error fault) :
    Outcome t b mode (.error (.invalidJson fault))
  | rendered (value : Json.Value)
    (ready : t.Ready b mode)
    (accepted : (Json.Document.ofChars (t.filledChars b)).toValue = .ok value) :
    Outcome t b mode
      (.ok ⟨if mode.pretty then value.pretty ++ "\n" else String.ofList (t.filledChars b), value⟩)

/-! ### The checks of the names -/

theorem strayIdentifiers_listed (t : Template) :
  FirstAppearance t.strayNames t.strayIdentifiers
  := firstAppearance_distinctNames _

theorem placeholders_listed (t : Template) :
  FirstAppearance t.usedNames t.placeholders
  := firstAppearance_distinctNames _

theorem missingNames_listed (t : Template) (b : Bindings) :
  FirstAppearance (t.usedNames.filter (!b.contains ·)) (t.missingNames b)
  := t.placeholders_listed.filter _

theorem mem_unknownNames (t : Template) (b : Bindings) (name : String) :
  name ∈ t.unknownNames b ↔ b.contains name = true ∧ name ∉ t.usedNames
  := by
  rw [unknownNames, List.mem_filter, Bindings.contains, Dictionary.contains_iff]
  simp [Bindings.names, t.placeholders_listed.mem_iff]

theorem unknownNames_sorted (t : Template) (b : Bindings) :
  (t.unknownNames b).Pairwise fun a b => utf8Bytes a < utf8Bytes b
  := by
  apply List.Pairwise.filter
  apply b.values.names_sorted.imp
  apply utf8Bytes_lt

theorem covers_of_bound {t : Template} {b : Bindings}
    (bound : ∀ name ∈ t.usedNames, b.contains name = true) :
  b.Covers t.row
  := (t.covers_iff b).2 fun _ mem => bound _ (List.mem_map_of_mem mem)

theorem strayIdentifiers_eq_nil_iff (t : Template) :
  t.strayIdentifiers = [] ↔ t.strayNames = []
  := t.strayIdentifiers_listed.eq_nil_iff

theorem missingNames_eq_nil_iff (t : Template) (b : Bindings) :
  t.missingNames b = [] ↔ ∀ name ∈ t.usedNames, b.contains name = true
  := by
  rw [(t.missingNames_listed b).eq_nil_iff, List.filter_eq_nil_iff]
  simp

theorem unknownNames_eq_nil_iff (t : Template) (b : Bindings) :
  t.unknownNames b = [] ↔ ∀ name, b.contains name = true → name ∈ t.usedNames
  := by
  simp only [List.eq_nil_iff_forall_not_mem, mem_unknownNames, not_and, Decidable.not_not]

/-- What passes the checks is ready to have the values put in. -/
theorem checkNames_eq_ok_iff (t : Template) (b : Bindings) (mode : RenderMode) :
  t.checkNames b mode.strict = .ok () ↔ t.Ready b mode
  := by
  have unfolded : t.checkNames b mode.strict = .ok () ↔ t.strayIdentifiers = []
      ∧ t.missingNames b = [] ∧ (mode.strict = true → t.unknownNames b = []) := by
    simp only [checkNames, Bool.not_eq_true', Bool.and_eq_true, List.isEmpty_eq_false_iff]
    grind
  rw [unfolded, strayIdentifiers_eq_nil_iff, missingNames_eq_nil_iff, unknownNames_eq_nil_iff]
  constructor
  · rintro ⟨noStrays, bound, known⟩
    exact ⟨noStrays, bound, known⟩
  · rintro ⟨noStrays, bound, known⟩
    exact ⟨noStrays, bound, known⟩

/-- A refused check is due. -/
theorem outcome_of_checkNames {t : Template} {b : Bindings} {mode : RenderMode} {error : Error}
    (h : t.checkNames b mode.strict = .error error) :
  Outcome t b mode (.error error)
  := by
  rw [checkNames] at h
  split at h
  · next strays =>
    obtain rfl := Except.error.inj h
    rw [Bool.not_eq_true', List.isEmpty_eq_false_iff, ne_eq, strayIdentifiers_eq_nil_iff] at strays
    exact .strayIdentifiers _ strays t.strayIdentifiers_listed
  next noStrays =>
  simp only [Bool.not_eq_true', Bool.not_eq_false, List.isEmpty_iff, strayIdentifiers_eq_nil_iff]
    at noStrays
  split at h
  · next missing =>
    obtain rfl := Except.error.inj h
    simp only [Bool.not_eq_true', List.isEmpty_eq_false_iff, ne_eq, missingNames_eq_nil_iff,
      not_forall, Bool.not_eq_true, exists_prop] at missing
    exact .missingBindings _ noStrays missing (t.missingNames_listed b)
  next noneMissing =>
  simp only [Bool.not_eq_true', Bool.not_eq_false, List.isEmpty_iff, missingNames_eq_nil_iff]
    at noneMissing
  split at h
  · next unknown =>
    obtain rfl := Except.error.inj h
    simp only [Bool.and_eq_true, Bool.not_eq_true', List.isEmpty_eq_false_iff, ne_eq,
      unknownNames_eq_nil_iff, not_forall, exists_prop] at unknown
    exact .unknownBindings _ noStrays noneMissing unknown.1 unknown.2 (t.mem_unknownNames b)
      (t.unknownNames_sorted b)
  · simp at h

/-- If nothing speaks against it the values are put in, and what comes out is read. -/
theorem render_of_ready {t : Template} {b : Bindings} {mode : RenderMode}
    (ready : t.Ready b mode) :
  t.render b mode
    = ((Json.Document.ofChars (t.filledChars b)).toValue.mapError .invalidJson).map fun value =>
        ⟨if mode.pretty then value.pretty ++ "\n" else String.ofList (t.filledChars b), value⟩
  := by
  rw [render, (t.checkNames_eq_ok_iff b mode).2 ready,
    t.substituted_eq (covers_of_bound ready.bound)]
  rfl

theorem render_of_refused {t : Template} {b : Bindings} {mode : RenderMode} {error : Error}
    (refused : t.checkNames b mode.strict = .error error) :
  t.render b mode = .error error
  := by
  rw [render, refused]
  rfl

/-- The result of rendering is due. -/
theorem outcome_render (t : Template) (b : Bindings) (mode : RenderMode) :
  Outcome t b mode (t.render b mode)
  := by
  cases checked : t.checkNames b mode.strict with
  | error error =>
    rw [render_of_refused checked]
    exact outcome_of_checkNames checked
  | ok =>
    have ready := (t.checkNames_eq_ok_iff b mode).1 checked
    rw [render_of_ready ready]
    cases read : (Json.Document.ofChars (t.filledChars b)).toValue with
    | error fault => exact .invalidJson fault ready read
    | ok value => exact .rendered value ready read

/-- Without the pretty form the rendered value is that of the text. -/
theorem parse_of_render {t : Template} {b : Bindings} {mode : RenderMode} {r : Rendered}
    (plain : mode.pretty = false) (rendered : t.render b mode = .ok r) :
  Json.parse r.text = .ok r.value
  := by
  have outcome := outcome_render t b mode
  rw [rendered] at outcome
  cases outcome with
  | rendered value ready accepted =>
    simpa [plain, Json.parse, Json.Document.ofText] using accepted

/-- A result that is due is the one of rendering. -/
theorem Outcome.eq_render {t : Template} {b : Bindings} {mode : RenderMode}
    {result : Except Error Rendered} (h : Outcome t b mode result) :
  t.render b mode = result
  := by
  cases h with
  | strayIdentifiers names strays listed =>
    obtain rfl := listed.unique t.strayIdentifiers_listed
    rw [ne_eq, ← strayIdentifiers_eq_nil_iff] at strays
    apply render_of_refused
    simp [checkNames, strays]
  | missingBindings names noStrays unbound listed =>
    obtain rfl := listed.unique (t.missingNames_listed b)
    have missing : t.missingNames b ≠ [] := by simpa [missingNames_eq_nil_iff] using unbound
    apply render_of_refused
    simp [checkNames, t.strayIdentifiers_eq_nil_iff.2 noStrays, missing]
  | unknownBindings names noStrays bound strict unknown listed ordered =>
    obtain rfl := eq_of_byteOrder ordered (t.unknownNames_sorted b) fun name =>
      (listed name).trans (t.mem_unknownNames b name).symm
    have unknown : t.unknownNames b ≠ [] := by simpa [unknownNames_eq_nil_iff] using unknown
    apply render_of_refused
    simp [checkNames, t.strayIdentifiers_eq_nil_iff.2 noStrays,
      (t.missingNames_eq_nil_iff b).2 bound, strict, unknown]
  | invalidJson fault ready refused =>
    rw [render_of_ready ready, refused]
    rfl
  | rendered value ready accepted =>
    rw [render_of_ready ready, accepted]
    rfl

/-! ### What does not matter -/

/-- The pretty form changes the text of a document, and nothing else. -/
theorem map_value_render (t : Template) (b : Bindings) (strict pretty : Bool) :
  (t.render b ⟨strict, pretty⟩).map Rendered.value
    = (t.render b ⟨strict, false⟩).map Rendered.value
  := by
  simp only [render]
  cases t.checkNames b strict with
  | error => rfl
  | ok =>
    cases t.substituted b with
    | error => rfl
    | ok chars =>
      cases value : (Json.Document.ofChars chars).toValue with
      | error => simp [value, bind, Except.bind, Except.mapError]
      | ok => simp [value, bind, Except.bind, Except.mapError, Except.map, pure, Except.pure]

/-- The loop looks up the names of the occurrences and no others. -/
theorem splice_congr {b c : Bindings} {occurrences : List Occurrence}
    (agree : ∀ o ∈ occurrences, b.get? o.name = c.get? o.name) (cursor : Nat) (rest : List Char) :
  b.splice cursor rest occurrences = c.splice cursor rest occurrences
  := by
  induction occurrences generalizing cursor rest with
  | nil => rfl
  | cons o later ih =>
    have laterAgree : ∀ o ∈ later, b.get? o.name = c.get? o.name := fun o mem =>
      agree o (List.mem_cons_of_mem _ mem)
    simp only [Bindings.splice, agree o List.mem_cons_self, ih laterAgree]

/-- Without the strict mode a value counts only if its name is used. -/
theorem render_congr {t : Template} {b c : Bindings}
    (agree : ∀ o ∈ t.occurrences, b.get? o.name = c.get? o.name) (pretty : Bool) :
  t.render b ⟨false, pretty⟩ = t.render c ⟨false, pretty⟩
  := by
  have missing : t.missingNames b = t.missingNames c := by
    apply List.filter_congr
    intro name used
    obtain ⟨o, mem, rfl⟩ := List.mem_map.1 ((t.placeholders_listed.mem_iff name).1 used)
    simp only [Bindings.contains, Dictionary.contains]
    rw [show b.values.get? o.name = c.values.get? o.name from agree o mem]
  have same : t.checkNames b false = t.checkNames c false := by
    simp only [checkNames, missing, Bool.false_and, Bool.false_eq_true, ↓reduceIte]
  simp only [render, same, substituted, splice_congr agree]

/-- **The outcome of rendering.**  A result is the one of rendering exactly if it is due.  Once the
names are checked the loop over the occurrences finds every value; the pretty form does not change
the outcome; and without the strict mode the values of other names do not count. -/
theorem render_decided (t : Template) (b : Bindings) (mode : RenderMode) :
  (∀ result, t.render b mode = result ↔ Outcome t b mode result)
    ∧ (t.checkNames b mode.strict = .ok () → t.substituted b = .ok (t.filledChars b))
    ∧ (∀ pretty, (t.render b ⟨mode.strict, pretty⟩).map Rendered.value
        = (t.render b mode).map Rendered.value)
    ∧ ∀ c : Bindings, (∀ o ∈ t.occurrences, b.get? o.name = c.get? o.name) →
        ∀ pretty, t.render b ⟨false, pretty⟩ = t.render c ⟨false, pretty⟩
  := by
  refine ⟨?_, ?_, ?_, ?_⟩
  · intro result
    constructor
    · rintro rfl
      apply outcome_render
    · apply Outcome.eq_render
  · intro checked
    exact t.substituted_eq (covers_of_bound ((t.checkNames_eq_ok_iff b mode).1 checked).bound)
  · intro pretty
    rw [map_value_render t b mode.strict pretty, ← map_value_render t b mode.strict mode.pretty]
  · intro c agree pretty
    exact render_congr agree pretty

end Template

end ConfigTemplate
