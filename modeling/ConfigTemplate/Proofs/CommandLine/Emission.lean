import ConfigTemplate.Proofs.CommandLine.Revalidation
import ConfigTemplate.Proofs.Files.Writing

/-!
# What rendering lets out

A request to render ends in one of four ways, `ends_run`: it is refused on the way to its product,
its product is printed, its product cannot be written, or it is written.  Only the second and the
fourth let a text out, and these come behind the validation: `emits_validated`.
-/

namespace ConfigTemplate

open Json Training

namespace RenderRequest

variable {colored : Bool} {a : RenderRequest} {environment : Environment} {files : FileTree}

/-- The ways in which a request to render ends, each with what is printed and what becomes of the
files. -/
inductive Ends (colored : Bool) (a : RenderRequest) (environment : Environment)
    (files : FileTree) : Outcome → Prop
  | refused (error : Error) (log : List LogLine)
    (refuses : (a.product (.of environment files)).result = .error error) :
    Ends colored a environment files ⟨"", .error error, log, files⟩
  | printed (p : Product) (log : List LogLine)
    (made : (a.product (.of environment files)).result = .ok p)
    (target : a.target? (a.settings environment) = none) :
    Ends colored a environment files ⟨p.rendered.text, .ok (), log, files⟩
  | unwritten (p : Product) (path : String) (error : Error) (log : List LogLine) (after : FileTree)
    (made : (a.product (.of environment files)).result = .ok p)
    (target : a.target? (a.settings environment) = some path)
    (fails : files.write path p.rendered.text a.force = (.error error, after)) :
    Ends colored a environment files ⟨"", .error error, log, after⟩
  | written (p : Product) (path : String) (log : List LogLine) (after : FileTree)
    (made : (a.product (.of environment files)).result = .ok p)
    (target : a.target? (a.settings environment) = some path)
    (writes : files.write path p.rendered.text a.force = (.ok (), after)) :
    Ends colored a environment files ⟨summary colored p path, .ok (), log, after⟩

/-- A request to render ends in one of these ways. -/
theorem ends_run (colored : Bool) (a : RenderRequest) (environment : Environment)
    (files : FileTree) :
  Ends colored a environment files ((Command.render a).run colored environment files)
  := by
  rw [Command.run, Command.plan, Logged.conclude, result_plan]
  cases made : (a.product (.of environment files)).result with
  | error error => exact .refused error _ made
  | ok p =>
    change Ends colored a environment files (Outcome.mk _ _ _ _)
    cases target : a.target? (a.settings environment) with
    | none =>
      simp only [Surroundings.of, target]
      exact .printed p _ made target
    | some path =>
      simp only [Surroundings.of, target, Plan.carryOut]
      rcases writes : files.write path p.rendered.text a.force with ⟨error | ⟨⟩, after⟩
      · exact .unwritten p path error _ after made target writes
      · exact .written p path _ after made target writes

/-- A product that had to be validated was rendered from its template, and no error was found in the
configuration that its value is. -/
theorem exists_config_of_product {p : Product}
    (made : (a.product (.of environment files)).result = .ok p)
    (validates : (a.settings environment).validate = true) :
  p.template.render p.bindings (a.settings environment).renderMode = .ok p.rendered
    ∧ ∃ c, Config.ofValue p.rendered.value = .ok c
      ∧ (validate ((Surroundings.of environment files).pathCheck
          (a.settings environment).checkPaths) c).errors = []
  := by
  obtain ⟨-, -, rendered, validated⟩ := result_product_eq_ok_iff.1 made
  obtain ⟨c, loaded, passed, -⟩ := (result_validated_eq_ok_iff validates).1 validated
  exact ⟨rendered, c, loaded, errors_validate_of_passed passed⟩

/-- A request to copy a configuration that passes succeeds. -/
theorem result_run_copy {text : String} {value : Value} {c : Config}
    (noPlaceholders : placeholdersOf text.toList = []) (noStrays : straysOf text.toList = [])
    (denotes : parse text = .ok value) (loaded : Config.ofValue value = .ok c)
    (passed : (validate none c).passed = true) :
  ((Command.render copyRequest).run false noVariables (singleFile text)).result = .ok ()
  := by
  have made := result_product_copy noPlaceholders noStrays denotes loaded passed
  obtain ⟨after, writes⟩ :
      ∃ after, (singleFile text).write "out.json" text copyRequest.force = (.ok (), after) :=
    ⟨_, rfl⟩
  apply Command.result_run_eq_ok_iff.2
  refine ⟨_, (result_plan_eq_ok_iff rfl).2 ⟨_, made, rfl⟩, ?_⟩
  simp [Plan.carryOut, writes]

/-- The text of a configuration that passes, which no proof has to look into. -/
@[irreducible]
def copiedText : String := String.ofList repeatingChars

theorem toList_copiedText :
  copiedText.toList = repeatingChars
  := by
  unfold copiedText
  exact String.toList_ofList

theorem exists_config_copiedText :
  placeholdersOf copiedText.toList = [] ∧ straysOf copiedText.toList = []
    ∧ ∃ value c, parse copiedText = .ok value ∧ Config.ofValue value = .ok c
      ∧ (validate none c).passed = true
  := by
  obtain ⟨noPlaceholders, noStrays, -⟩ := computed_repeatingChars
  have found := exists_config_repeatingChars
  rw [toList_copiedText]
  unfold copiedText
  exact ⟨noPlaceholders, noStrays, found⟩

end RenderRequest

end ConfigTemplate
