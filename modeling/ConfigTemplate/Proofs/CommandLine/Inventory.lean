import ConfigTemplate.Proofs.CommandLine.Steps
import ConfigTemplate.Proofs.Template.Coverage

/-!
# The verdict of an inventory

The inventory of a template ends well if the template has no stray identifiers and covers the
catalog exactly.  That is so exactly if strict rendering refuses no name when all documented
placeholders are bound and nothing else is: `coverage_decides`.
-/

namespace ConfigTemplate

namespace Inventory

theorem verdict_eq_ok_iff (t : Template) :
  verdict t = .ok () ↔ t.strayIdentifiers = [] ∧ t.coverage.isExact = true
  := by
  rw [verdict]
  by_cases strays : t.strayIdentifiers = []
  · by_cases exact : t.coverage.isExact = true
    · simp [strays, exact]
    · simp [strays, exact]
  · simp [strays]

/-- An inventory of a template that is loaded ends with the verdict on it. -/
theorem result_run {colored json : Bool} {path : Option String} {environment : Environment}
    {files : FileTree} {t : Template} (loads : (Template.load path files.read).result = .ok t) :
  ((Command.placeholders path json).run colored environment files).result = verdict t
  := by
  have planned : ((Command.placeholders path json).plan colored (.of environment files)).result
      = .ok ⟨none, if json then (value t).pretty ++ "\n" else text colored t, verdict t⟩ := by
    rw [Command.plan, plan, Logged.result_bind, Surroundings.of, loads]
    rfl
  rw [Command.run, Logged.conclude, planned]
  rfl

/-- With complete bindings the verdict tells whether a name is refused. -/
theorem verdict_eq_ok_iff_of_complete (t : Template) {b : Bindings} (complete : b.Complete)
    (pretty : Bool) :
  verdict t = .ok () ↔ ¬Template.RefusesNames (t.render b ⟨true, pretty⟩)
  := by
  have predicted : t.Predicted (t.render b ⟨true, pretty⟩) := Template.predicted_render complete _
  rw [verdict_eq_ok_iff, Coverage.isExact_iff]
  generalize t.render b ⟨true, pretty⟩ = result at predicted ⊢
  cases predicted with
  | strayIdentifiers strays => simp [strays, Template.RefusesNames.strayIdentifiers]
  | missingBindings names noStrays undocumented same =>
    simp [undocumented, Template.RefusesNames.missingBindings]
  | unknownBindings noStrays documented missing =>
    simp [missing, Template.RefusesNames.unknownBindings]
  | passed result noStrays exact accepted =>
    simp [noStrays, (Coverage.isExact_iff _).1 exact, accepted]

/-- **Coverage and rendering agree.**  Let the documented names be bound, and no others.  Strict
rendering refuses stray identifiers exactly if there are some; otherwise missing bindings exactly if
something is undocumented, and then these names; otherwise unknown bindings exactly if something is
missing, and then this list; and otherwise no name.  So the inventory of the template ends well
exactly if no such bindings are refused because of a name, and any of them are enough to tell. -/
theorem coverage_decides (t : Template) :
  (∀ b : Bindings, b.Complete → ∀ pretty,
    let result := t.render b ⟨true, pretty⟩
    ((∃ names, result = .error (.strayIdentifiers names)) ↔ t.strayIdentifiers ≠ [])
    ∧ (t.strayIdentifiers = [] →
      ((∃ names, result = .error (.missingBindings names)) ↔ t.coverage.undocumented ≠ [])
      ∧ (∀ names, result = .error (.missingBindings names) →
        names.Perm t.coverage.undocumented)
      ∧ (t.coverage.undocumented = [] →
        ((∃ names, result = .error (.unknownBindings names)) ↔ t.coverage.missing ≠ [])
        ∧ (∀ names, result = .error (.unknownBindings names) → names = t.coverage.missing)
        ∧ (t.coverage.missing = [] → ¬Template.RefusesNames result))))
  ∧ ∀ colored path json environment files, (Template.load path files.read).result = .ok t →
      let succeeds :=
        ((Command.placeholders path json).run colored environment files).result = .ok ()
      (succeeds ↔ ∀ b : Bindings, b.Complete → ∀ pretty,
        ¬Template.RefusesNames (t.render b ⟨true, pretty⟩))
      ∧ ∀ b : Bindings, b.Complete → ∀ pretty,
        (succeeds ↔ ¬Template.RefusesNames (t.render b ⟨true, pretty⟩))
  := by
  constructor
  · intro b complete pretty
    have predicted : t.Predicted (t.render b ⟨true, pretty⟩) :=
      Template.predicted_render complete _
    dsimp only
    generalize t.render b ⟨true, pretty⟩ = result at predicted ⊢
    cases predicted with
    | strayIdentifiers strays => simp [strays]
    | missingBindings names noStrays undocumented same => simp [noStrays, undocumented, same]
    | unknownBindings noStrays documented missing => simp [noStrays, documented, missing]
    | passed result noStrays exact accepted =>
      obtain ⟨documented, covered⟩ := (Coverage.isExact_iff _).1 exact
      have named (error : Error) (refuses : Template.RefusesNames (.error error)) :
          result ≠ .error error := by
        rintro rfl
        exact accepted refuses
      simp [noStrays, documented, covered, accepted,
        named _ (.strayIdentifiers _), named _ (.missingBindings _), named _ (.unknownBindings _)]
  · intro colored path json environment files loads
    dsimp only
    rw [result_run loads]
    have told (b : Bindings) (complete : b.Complete) (pretty : Bool) :=
      verdict_eq_ok_iff_of_complete t complete pretty
    refine ⟨?_, told⟩
    constructor
    · intro succeeds b complete pretty
      exact (told b complete pretty).1 succeeds
    · intro accepted
      have complete := (admitted_pretrainingValues (.inl rfl)).names
      exact (told _ complete false).2 (accepted _ complete false)

/-- A template with a placeholder that the catalog does not have. -/
def extendedTemplate : Template where
  name := "custom.json"
  source := "\x7b \"a\": GBSIZE, \"b\": [EXTRA_KNOB, \"GBSIZE\", EXTRA_KNOB] \x7d"
  origin := some "custom.json"

/-- A system with this template in it. -/
def extendedFiles : FileTree where
  entries := [(["custom.json"], .file (.text extendedTemplate.source))]
  workingDirectory := []

/-- With all documented names bound, the undocumented placeholder is the one without a value, and
the inventory of the template fails. -/
theorem coverage_extendedTemplate :
  extendedTemplate.render (pretrainingValues 0xffffffff) ⟨true, false⟩
      = .error (.missingBindings ["EXTRA_KNOB"])
    ∧ ((Command.placeholders (some "custom.json") true).run false (fun _ => none)
        extendedFiles).result ≠ .ok ()
  := by
  have complete : (pretrainingValues 0xffffffff).Complete :=
    (admitted_pretrainingValues (.inl rfl)).names
  have noStrays : extendedTemplate.strayIdentifiers = [] := by decide +kernel
  have undocumented : extendedTemplate.coverage.undocumented = ["EXTRA_KNOB"] := by decide +kernel
  have loads : (Template.load (some "custom.json") extendedFiles.read).result
      = .ok extendedTemplate := by decide +kernel
  obtain ⟨refusals, inventory⟩ := coverage_decides extendedTemplate
  obtain ⟨-, refused⟩ := refusals _ complete false
  obtain ⟨missing, listed, -⟩ := refused noStrays
  obtain ⟨names, result⟩ := missing.2 (by simp [undocumented])
  have same := listed names result
  rw [undocumented, List.perm_singleton] at same
  refine ⟨same ▸ result, ?_⟩
  intro succeeds
  obtain ⟨told, -⟩ := inventory false _ true (fun _ => none) _ loads
  apply told.1 succeeds _ complete false
  rw [result]
  exact .missingBindings names

end Inventory

end ConfigTemplate
