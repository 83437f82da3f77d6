import ConfigTemplate.Proofs.Bindings.Admitted
import ConfigTemplate.Proofs.Template.Outcome

/-!
# Coverage and complete bindings

The coverage of a template compares its placeholders with the catalog; rendering compares them with
the bound names.  If the bound names are those of the catalog, both comparisons are the same one:
what is found but not documented is what has no value, `missingNames_perm`, and what is documented
but not found is what is not known, `unknownNames_eq`.  So the coverage says beforehand which
refusal of names is due: `predicted_render`.
-/

namespace ConfigTemplate

/-! ### The names of a coverage -/

namespace Coverage

theorem pairwise_sortedNames (names : List String) :
  (sortedNames names).Pairwise (· < ·)
  := by
  rw [sortedNames, List.pairwise_map]
  exact sortedEntries_sortEntries _

theorem mem_sortedNames (names : List String) (name : String) :
  name ∈ sortedNames names ↔ name ∈ names
  := by
  have listed : name ∈ sortedNames names
      ↔ ((sortEntries (names.map fun name => (name, ()))).lookup name).isSome = true := by
    simp only [sortedNames, List.lookup_isSome_iff, List.mem_map, beq_iff_eq]
    grind
  rw [listed, lookup_sortEntries, List.lookup_isSome_iff]
  simp

variable (found : List String) (name : String)

/-- What is undocumented was found and is not in the catalog. -/
theorem mem_undocumented :
  name ∈ (ofNames found).undocumented ↔ name ∈ found ∧ name ∉ documentedNames
  := by
  simp [ofNames, mem_sortedNames]

/-- What is missing is in the catalog and was not found. -/
theorem mem_missing :
  name ∈ (ofNames found).missing ↔ name ∈ documentedNames ∧ name ∉ found
  := by
  simp [ofNames, mem_sortedNames]

theorem pairwise_undocumented :
  (ofNames found).undocumented.Pairwise (· < ·)
  := (pairwise_sortedNames found).filter (!documentedNames.contains ·)

theorem pairwise_missing :
  (ofNames found).missing.Pairwise (· < ·)
  := (pairwise_sortedNames documentedNames).filter (!found.contains ·)

theorem isExact_iff (c : Coverage) :
  c.isExact = true ↔ c.undocumented = [] ∧ c.missing = []
  := by
  simp [isExact]

end Coverage

/-- Names in their order are determined by what names there are. -/
theorem eq_of_sortedNames {names others : List String} (h : names.Pairwise (· < ·))
    (h' : others.Pairwise (· < ·)) (same : ∀ name, name ∈ names ↔ name ∈ others) :
  names = others
  := eq_of_byteOrder (h.imp utf8Bytes_lt) (h'.imp utf8Bytes_lt) same

theorem FirstAppearance.nodup {all names : List String} (h : FirstAppearance all names) :
  names.Nodup
  := by
  apply h.ordered.imp
  rintro a _ less rfl
  exact Nat.lt_irrefl _ less

/-! ### Complete bindings -/

/-- The bound names are those of the catalog. -/
def Bindings.Complete (b : Bindings) : Prop :=
  ∀ name, b.contains name = true ↔ name ∈ documentedNames

namespace Template

variable {t : Template} {b : Bindings} (complete : b.Complete)

include complete

/-- The placeholders without a value are the undocumented ones, in another order. -/
theorem missingNames_perm :
  (t.missingNames b).Perm t.coverage.undocumented
  := by
  have once : t.coverage.undocumented.Nodup :=
    (Coverage.pairwise_undocumented t.placeholders).imp String.ne_of_lt
  rw [List.perm_ext_iff_of_nodup (t.missingNames_listed b).nodup once]
  intro name
  rw [(t.missingNames_listed b).mem_iff, List.mem_filter, coverage, Coverage.mem_undocumented,
    t.placeholders_listed.mem_iff, ← complete]
  simp

/-- The unknown names are the documented ones that are missing, in the same order. -/
theorem unknownNames_eq :
  t.unknownNames b = t.coverage.missing
  := by
  apply eq_of_sortedNames (b.values.names_sorted.filter _)
    (Coverage.pairwise_missing t.placeholders)
  intro name
  change name ∈ t.unknownNames b ↔ name ∈ (Coverage.ofNames t.placeholders).missing
  rw [mem_unknownNames, Coverage.mem_missing, complete, t.placeholders_listed.mem_iff]

omit complete

/-! ### Refusals of names -/

/-- Rendering is refused because of a name. -/
inductive RefusesNames : Except Error Rendered → Prop
  | strayIdentifiers (names : List String) : RefusesNames (.error (.strayIdentifiers names))
  | missingBindings (names : List String) : RefusesNames (.error (.missingBindings names))
  | unknownBindings (names : List String) : RefusesNames (.error (.unknownBindings names))

/-- What passes the checks is not refused because of a name. -/
theorem Ready.not_refusesNames {mode : RenderMode} (ready : t.Ready b mode) :
  ¬RefusesNames (t.render b mode)
  := by
  rw [render_of_ready ready]
  cases (Json.Document.ofChars (t.filledChars b)).toValue with
  | error fault => rintro ⟨⟩
  | ok value => rintro ⟨⟩

/-- The result of the strict mode for complete bindings, as the coverage predicts it: the first
refusal that is due, with its names, or none. -/
inductive Predicted (t : Template) : Except Error Rendered → Prop
  | strayIdentifiers (strays : t.strayIdentifiers ≠ []) :
    Predicted t (.error (.strayIdentifiers t.strayIdentifiers))
  | missingBindings (names : List String) (noStrays : t.strayIdentifiers = [])
    (undocumented : t.coverage.undocumented ≠ []) (same : names.Perm t.coverage.undocumented) :
    Predicted t (.error (.missingBindings names))
  | unknownBindings (noStrays : t.strayIdentifiers = [])
    (documented : t.coverage.undocumented = []) (missing : t.coverage.missing ≠ []) :
    Predicted t (.error (.unknownBindings t.coverage.missing))
  | passed (result : Except Error Rendered) (noStrays : t.strayIdentifiers = [])
    (exact : t.coverage.isExact = true) (accepted : ¬RefusesNames result) :
    Predicted t result

include complete

/-- The strict mode refuses complete bindings as the coverage of the template predicts. -/
theorem predicted_render (pretty : Bool) :
  t.Predicted (t.render b ⟨true, pretty⟩)
  := by
  have missing : (t.missingNames b).Perm t.coverage.undocumented := missingNames_perm complete
  have unknown : t.unknownNames b = t.coverage.missing := unknownNames_eq complete
  have nothing : t.missingNames b = [] ↔ t.coverage.undocumented = [] := by
    rw [← List.length_eq_zero_iff, missing.length_eq, List.length_eq_zero_iff]
  by_cases strays : t.strayIdentifiers = []
  case neg =>
    have refused : t.checkNames b true = .error (.strayIdentifiers t.strayIdentifiers) := by
      simp [checkNames, strays]
    rw [show t.render b ⟨true, pretty⟩ = _ from render_of_refused refused]
    exact .strayIdentifiers strays
  by_cases undocumented : t.coverage.undocumented = []
  case neg =>
    have refused : t.checkNames b true = .error (.missingBindings (t.missingNames b)) := by
      simp [checkNames, strays, nothing, undocumented]
    rw [show t.render b ⟨true, pretty⟩ = _ from render_of_refused refused]
    exact .missingBindings _ strays undocumented missing
  by_cases uncovered : t.coverage.missing = []
  case neg =>
    have refused : t.checkNames b true = .error (.unknownBindings t.coverage.missing) := by
      simp [checkNames, strays, nothing, undocumented, unknown, uncovered]
    rw [show t.render b ⟨true, pretty⟩ = _ from render_of_refused refused]
    exact .unknownBindings strays undocumented uncovered
  have ready : t.Ready b ⟨true, pretty⟩ := by
    rw [← checkNames_eq_ok_iff]
    simp [checkNames, strays, nothing.2 undocumented, unknown, uncovered]
  exact .passed _ strays (t.coverage.isExact_iff.2 ⟨undocumented, uncovered⟩)
    ready.not_refusesNames

end Template

end ConfigTemplate
