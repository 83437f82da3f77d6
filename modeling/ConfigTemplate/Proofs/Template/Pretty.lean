import ConfigTemplate.Proofs.Json.PrettyText
import ConfigTemplate.Proofs.Template.Outcome
import ConfigTemplate.Proofs.Template.Structural

/-!
# The pretty form

A template is rendered with its own layout or in the pretty form.  Both forms are the same
document: `render_pretty` states that they have the same outcome, and that the pretty text, which
ends in one line end, is read back as the document.
-/

namespace ConfigTemplate.Template

/-- A rendered value is canonical and no deeper than documents may be. -/
theorem canonical_of_render {t : Template} {b : Bindings} {mode : RenderMode} {r : Rendered}
    (rendered : t.render b mode = .ok r) :
  r.value.Canonical ∧ r.value.Shallow Json.depthLimit
  := by
  have outcome := outcome_render t b mode
  rw [rendered] at outcome
  cases outcome with
  | rendered value ready accepted => exact Json.canonical_of_toValue accepted

/-- In the pretty form the text is that of the value, with a line end behind it. -/
theorem text_of_render {t : Template} {b : Bindings} {strict : Bool} {r : Rendered}
    (rendered : t.render b ⟨strict, true⟩ = .ok r) :
  r.text = r.value.pretty ++ "\n"
  := by
  have outcome := outcome_render t b ⟨strict, true⟩
  rw [rendered] at outcome
  cases outcome with
  | rendered value ready accepted => rfl

/-- **The pretty form is the same document.**  With and without the pretty form a template is
rendered to the same value, or refused for the same reason.  The pretty text ends in one line end,
and unless there are floating point numbers in the value it is read back as the value. -/
theorem render_pretty (t : Template) (b : Bindings) (strict : Bool) :
  (t.render b ⟨strict, true⟩).map Rendered.value = (t.render b ⟨strict, false⟩).map Rendered.value
    ∧ ∀ r, t.render b ⟨strict, true⟩ = .ok r →
        (∃ body, r.text = body ++ "\n" ∧ body.toList.getLast? ≠ some '\n')
          ∧ (r.value.Integral → Json.parse r.text = .ok r.value)
  := by
  refine ⟨map_value_render t b strict true, ?_⟩
  intro r rendered
  rw [text_of_render rendered]
  constructor
  · refine ⟨r.value.pretty, rfl, ?_⟩
    rw [Json.Value.pretty, String.toList_ofList]
    exact r.value.getLast?_prettyChars 0
  · intro integral
    obtain ⟨canonical, shallow⟩ := canonical_of_render rendered
    rw [Json.Value.parse_pretty integral shallow, canonical.sorted_eq]

open Json in
theorem render_pretty_greeting :
  (greeting.template "greeting").render (greetingValues "you\"" "hi\n") ⟨true, true⟩
      = .ok ⟨"\x7b\n  \"you\\\"\": \"hi\\n\"\n\x7d\n", .object [("you\"", .string "hi\n")]⟩
    ∧ parse "\x7b\n  \"you\\\"\": \"hi\\n\"\n\x7d\n" = .ok (.object [("you\"", .string "hi\n")])
  := by
  have rendered := render_greeting "you\"" "hi\n" ⟨true, true⟩
  obtain ⟨-, read⟩ := ((greeting.template "greeting").render_pretty
    (greetingValues "you\"" "hi\n") true).2 _ rendered
  exact ⟨rendered, read (.object (by simp [Value.Integral.string]))⟩

end ConfigTemplate.Template
