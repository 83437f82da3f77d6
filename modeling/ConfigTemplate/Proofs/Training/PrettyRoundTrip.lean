import ConfigTemplate.CommandLine.Rendering
import ConfigTemplate.Proofs.Json.Distinct
import ConfigTemplate.Proofs.Template.Pretty
import ConfigTemplate.Proofs.Training.Agreement

/-!
# The pretty text of a configuration

A configuration is written with the fields of every record in their own order and the other members
behind them.  The main fact `Config.ofText_toPretty` says that a configuration without floating
point numbers is read from this text again: no field comes twice in it, nothing is lost, and it is
no deeper than what the configuration was obtained from.
-/

namespace ConfigTemplate.Training

open Json Json.Codec

/-! ### The codecs of the records -/

instance ZeroOptimization.distinct_codec : ZeroOptimization.codec.Distinct :=
  distinct_record (fun _ _ => rfl) (by decide +kernel)

instance Fp16.distinct_codec : Fp16.codec.Distinct :=
  distinct_record (fun _ _ => rfl) (by decide +kernel)

instance LinearSchedule.distinct_codec : LinearSchedule.codec.Distinct :=
  distinct_record (fun _ _ => rfl) (by decide +kernel)

instance TokenSchedule.distinct_codec : TokenSchedule.codec.Distinct :=
  distinct_record (fun _ _ => rfl) (by decide +kernel)

instance RandomLtd.distinct_codec : RandomLtd.codec.Distinct :=
  distinct_record (fun _ _ => rfl) (by decide +kernel)

instance DataRouting.distinct_codec : DataRouting.codec.Distinct :=
  distinct_record (fun _ _ => rfl) (by decide +kernel)

instance RootSchedule.distinct_codec : RootSchedule.codec.Distinct :=
  distinct_record (fun _ _ => rfl) (by decide +kernel)

instance Metric.distinct_codec : Metric.codec.Distinct :=
  distinct_record (fun _ _ => rfl) (by decide +kernel)

instance CurriculumLearning.distinct_codec : CurriculumLearning.codec.Distinct :=
  distinct_record (fun _ _ => rfl) (by decide +kernel)

instance DataSampling.distinct_codec : DataSampling.codec.Distinct :=
  distinct_record (fun _ _ => rfl) (by decide +kernel)

instance DataEfficiency.distinct_codec : DataEfficiency.codec.Distinct :=
  distinct_record (fun _ _ => rfl) (by decide +kernel)

instance Config.distinct_codec : Config.codec.Distinct :=
  distinct_record (fun _ _ => rfl) (by decide +kernel)

namespace Config

/-- A configuration is read from a text, or loaded from what a template is rendered as. -/
inductive Obtained (c : Config) : Prop
  | read (text : String) (reads : ofText text = .ok c)
  | rendered (t : Template) (b : Bindings) (mode : RenderMode) (r : Rendered)
    (renders : t.render b mode = .ok r) (loads : r.config = .ok c)

/-- In either way the configuration comes from a canonical value that is not too deep. -/
theorem Obtained.exists_value {c : Config} (h : c.Obtained) :
  ∃ value, ofValue value = .ok c ∧ value.Canonical ∧ value.Shallow depthLimit
  := by
  cases h with
  | read text reads =>
    obtain ⟨value, parsed, loaded⟩ := exists_value_of_ofText reads
    exact ⟨value, loaded, canonical_of_toValue parsed⟩
  | rendered t b mode r renders loads =>
    exact ⟨r.value, loads, Template.canonical_of_render renders⟩

/-- **Text round trip.**  The pretty text of a configuration without floating point numbers is read
as the configuration.  The text has all members as they are written, in their order, and no object
in it has two members of one name. -/
theorem ofText_toPretty {c : Config} (obtained : c.Obtained) (integral : c.written.Integral) :
  ofText c.toPretty = .ok c
    ∧ parse c.toPretty = .ok c.toValue
    ∧ (Document.ofText c.toPretty).root.laidOut = .ok c.written
    ∧ c.written.Distinct
  := by
  obtain ⟨value, loaded, canonical, shallow⟩ := obtained.exists_value
  have reads := ofValue_eq_ok_iff.1 loaded
  have distinct : c.written.Distinct := distinct_codec.distinct_write reads
  have same : c.written.sorted = value := by
    rw [written, lawful_codec.write_sorted reads, canonical.sorted_eq]
  have flat : c.written.Shallow depthLimit := distinct.shallow (same ▸ shallow)
  obtain ⟨laidOut, final⟩ := Value.laidOut_pretty integral flat
  rw [← toPretty] at laidOut final
  have parsed : parse c.toPretty = .ok c.toValue := by
    rw [parse, Document.toValue, Document.readWith, Node.toValue_of_laidOut laidOut, final]
    rfl
  have unrepeated := shape.unrepeated_of_laidOut laidOut distinct
  refine ⟨?_, parsed, laidOut, distinct⟩
  rw [toValue, same] at parsed
  exact ofText_of_unrepeated parsed loaded unrepeated

/-- A configuration with members that no record knows is read from its pretty text. -/
theorem ofText_toPretty_amended :
  ∃ c, ofText amendedText = .ok c ∧ c.written.Integral ∧ ofText c.toPretty = .ok c
  := by
  obtain ⟨value, c, parsed, loaded, integral, unrepeated, -⟩ := exists_config_amendedText
  have read := ofText_of_unrepeated parsed loaded unrepeated
  exact ⟨c, read, integral, (ofText_toPretty (.read amendedText read) integral).1⟩

end Config

end ConfigTemplate.Training
