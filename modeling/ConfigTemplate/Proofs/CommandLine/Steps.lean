import ConfigTemplate.CommandLine.Run
import ConfigTemplate.Proofs.Files.ReadBack
import ConfigTemplate.Proofs.Log
import ConfigTemplate.Proofs.Template.Outcome

/-!
# The steps of a command

What has to succeed for a command to succeed.  A request to render comes to a product if its
template is loaded, its bindings are gathered, the template is rendered and the configuration that
it is passes; the plan is to write the text of the product; and a plan that was carried out has left
its text at the path.
-/

namespace ConfigTemplate

open Json

/-! ### Templates -/

theorem Template.result_renderLogged (t : Template) (b : Bindings) (mode : RenderMode) :
  (t.renderLogged b mode).result = t.render b mode
  := by
  simp only [renderLogged, Logged.result_bind, Logged.result_ofExcept]
  cases checked : t.checkNames b mode.strict with
  | error error => exact (render_of_refused checked).symm
  | ok _ =>
    change (ite _ _ _ : Logged Rendered).result = _
    split
    · simp
    · simp

/-! ### Requests to render -/

namespace RenderRequest

variable {a : RenderRequest} {s : Surroundings}

/-- The steps to a product: the template is loaded, the bindings are gathered, and the rendered
template is validated. -/
theorem result_product_eq_ok_iff {p : Product} :
  (a.product s).result = .ok p
    ↔ (Template.load a.template s.read).result = .ok p.template
      ∧ (a.bindings s p.template).result = .ok p.bindings
      ∧ p.template.render p.bindings (a.settings s.environment).renderMode = .ok p.rendered
      ∧ (validated (a.settings s.environment) s p.rendered).result = .ok p.report
  := by
  simp only [product, Logged.result_bind, Logged.result_info, pure_bind,
    Template.result_renderLogged]
  constructor
  · intro h
    obtain ⟨t, loads, h⟩ := bind_eq_ok h
    obtain ⟨b, bound, h⟩ := bind_eq_ok h
    obtain ⟨r, rendered, h⟩ := bind_eq_ok h
    obtain ⟨report, validates, h⟩ := bind_eq_ok h
    obtain rfl := Except.ok.inj h
    exact ⟨loads, bound, rendered, validates⟩
  · rintro ⟨loads, bound, rendered, validates⟩
    rw [loads]
    change (a.bindings s p.template).result >>= _ = _
    rw [bound]
    change p.template.render p.bindings _ >>= _ = _
    rw [rendered]
    change (validated _ s p.rendered).result >>= _ = _
    rw [validates]
    rfl

/-- What is validated has to pass. -/
theorem result_validated_eq_ok_iff {settings : Settings} {r : Rendered} {report : Option Report}
    (validates : settings.validate = true) :
  (validated settings s r).result = .ok report
    ↔ ∃ c, r.config = .ok c ∧ (validate (s.pathCheck settings.checkPaths) c).passed = true
      ∧ report = some (validate (s.pathCheck settings.checkPaths) c)
  := by
  simp only [validated, validates, ↓reduceIte, Logged.result_bind, Logged.result_withContext,
    Logged.result_ofExcept]
  constructor
  · intro h
    obtain ⟨c, loaded, h⟩ := bind_eq_ok h
    obtain ⟨first, reported, h⟩ := bind_eq_ok h
    obtain rfl := Except.ok.inj reported
    split at h
    · next passed =>
      exact ⟨c, mapError_eq_ok_iff.1 loaded, passed, (Except.ok.inj h).symm⟩
    · cases h
  · rintro ⟨c, loaded, passed, rfl⟩
    rw [withContext, mapError_eq_ok_iff.2 loaded]
    change (ite ((validate _ c).passed = true) _ _ : Logged (Option Report)).result = _
    rw [if_pos passed]
    rfl

/-- The plan of a product: without a target it is printed, with a target it is written. -/
theorem result_plan {colored : Bool} :
  (a.plan colored s).result = (a.product s).result.map fun p =>
    match a.target? (a.settings s.environment) with
    | none => .print p.rendered.text
    | some path => ⟨some ⟨path, p.rendered.text, a.force⟩, summary colored p path, .ok ()⟩
  := by
  rw [RenderRequest.plan, Logged.result_bind]
  cases (a.product s).result with
  | error error => rfl
  | ok p => cases a.target? (a.settings s.environment) <;> rfl

/-- The plan of a request with a target is to write the text of its product there. -/
theorem result_plan_eq_ok_iff {colored : Bool} {plan : Plan} {path : String}
    (target : a.target? (a.settings s.environment) = some path) :
  (a.plan colored s).result = .ok plan
    ↔ ∃ p, (a.product s).result = .ok p
      ∧ plan = ⟨some ⟨path, p.rendered.text, a.force⟩, summary colored p path, .ok ()⟩
  := by
  rw [result_plan, target]
  cases (a.product s).result with
  | error error => simp [Except.map]
  | ok p => simp [Except.map, eq_comm]

end RenderRequest

/-! ### Plans -/

namespace Command

variable {colored : Bool} {command : Command} {environment : Environment} {files : FileTree}

/-- A command succeeds if it comes to a plan that can be carried out. -/
theorem result_run_eq_ok_iff :
  (command.run colored environment files).result = .ok ()
    ↔ ∃ plan, (command.plan colored (.of environment files)).result = .ok plan
      ∧ (plan.carryOut files).result = .ok ()
  := by
  unfold run Logged.conclude
  cases (command.plan colored (.of environment files)).result with
  | error error => simp [Outcome.refused]
  | ok plan => simp

theorem files_run {plan : Plan}
    (planned : (command.plan colored (.of environment files)).result = .ok plan) :
  (command.run colored environment files).files = (plan.carryOut files).files
  := by
  simp [run, Logged.conclude, planned]

end Command

/-- What a plan has written is read. -/
theorem Plan.read_carryOut {plan : Plan} {w : Writing} {files : FileTree}
    (writing : plan.writing = some w) (succeeds : (plan.carryOut files).result = .ok ()) :
  (plan.carryOut files).files.read w.path = .ok w.text
  := by
  simp only [carryOut, writing] at succeeds ⊢
  rcases written : files.write w.path w.text w.replacing with ⟨_ | _, after⟩
  · rw [written] at succeeds
    cases succeeds
  · exact FileTree.read_write written

end ConfigTemplate
