import ConfigTemplate.Proofs.Json.CodecLaws
import ConfigTemplate.Training.Layout

/-!
# Configurations lose nothing

Every record of a training configuration keeps the members that it does not know, so a configuration
that is loaded from a value is written as that value again.  Record by record this is the law of its
codec, from the innermost records to the whole.
-/

namespace ConfigTemplate.Training

open Json Json.Codec

/-! ### The codecs of the records -/

instance ZeroOptimization.lawful_codec : ZeroOptimization.codec.Lawful :=
  lawful_record fun _ _ => rfl

instance Fp16.lawful_codec : Fp16.codec.Lawful :=
  lawful_record fun _ _ => rfl

instance LinearSchedule.lawful_codec : LinearSchedule.codec.Lawful :=
  lawful_record fun _ _ => rfl

instance TokenSchedule.lawful_codec : TokenSchedule.codec.Lawful :=
  lawful_record fun _ _ => rfl

instance RandomLtd.lawful_codec : RandomLtd.codec.Lawful :=
  lawful_record fun _ _ => rfl

instance DataRouting.lawful_codec : DataRouting.codec.Lawful :=
  lawful_record fun _ _ => rfl

instance RootSchedule.lawful_codec : RootSchedule.codec.Lawful :=
  lawful_record fun _ _ => rfl

instance Metric.lawful_codec : Metric.codec.Lawful :=
  lawful_record fun _ _ => rfl

instance CurriculumLearning.lawful_codec : CurriculumLearning.codec.Lawful :=
  lawful_record fun _ _ => rfl

instance DataSampling.lawful_codec : DataSampling.codec.Lawful :=
  lawful_record fun _ _ => rfl

instance DataEfficiency.lawful_codec : DataEfficiency.codec.Lawful :=
  lawful_record fun _ _ => rfl

instance Config.lawful_codec : Config.codec.Lawful :=
  lawful_record fun _ _ => rfl

namespace Config

/-! ### Loading and writing -/

/-- A configuration is loaded from a value if the codec reads it. -/
theorem ofValue_eq_ok_iff {value : Value} {c : Config} :
  ofValue value = .ok c ↔ codec.Reads value c
  := by
  simp only [ofValue, ofDocument, readDocument, Document.readWith, Document.ofValue, Reads]
  cases codec.read (Node.ofValue value) with
  | error fault => simp [Except.mapError]
  | ok c => simp [Except.mapError]

/-- **Round trip.**  A configuration that is loaded from a value is written as that value: the
members of all objects are there, whether they are known or not, in the order of their names.  From
what is written the same configuration is loaded. -/
theorem toValue_eq_of_ofValue {value : Value} {c : Config} (loaded : ofValue value = .ok c) :
  c.toValue = value.sorted
    ∧ (value.Canonical → c.toValue = value)
    ∧ ofValue c.toValue = .ok c
  := by
  have reads := ofValue_eq_ok_iff.1 loaded
  have same : c.toValue = value.sorted := lawful_codec.write_sorted reads
  refine ⟨same, ?_, ?_⟩
  · intro canonical
    rw [same, canonical.sorted_eq]
  · rw [same, ofValue_eq_ok_iff]
    exact lawful_codec.reads_sorted reads

/-- A configuration with members that no record knows. -/
def annotatedValue : Value := .object [
  ("train_batch_size", count 256), ("train_micro_batch_size_per_gpu", count 4),
  ("steps_per_print", count 10),
  ("zero_optimization", .object [("stage", count 1), ("overlap_comm", .boolean true)]),
  ("gradient_clipping", .null), ("prescale_gradients", .boolean false),
  ("fp16", .object [
    ("enabled", .boolean true), ("loss_scale", count 0), ("loss_scale_window", count 500),
    ("hysteresis", count 2), ("min_loss_scale", count 1), ("initial_scale_power", count 11),
    ("auto_cast", .boolean false)]),
  ("data_efficiency", .object [
    ("enabled", .boolean true), ("seed", count 1234),
    ("data_routing", .object [
      ("enabled", .boolean true),
      ("random_ltd", .object [
        ("enabled", .boolean true), ("total_layer_num", count 3),
        ("random_ltd_layer_num", count 2), ("random_ltd_layer_id", .array [count 1, count 2]),
        ("model_mask_name", .string "attention_mask"), ("model_type", .string "decoder"),
        ("hidden_state_order", .string "seq_batch_dim"), ("micro_batch_size", count 4),
        ("random_ltd_schedule", .object [
          ("min_value", count 128), ("max_value", count 2048),
          ("schedule_type", .string "fixed_linear"),
          ("schedule_config", .object [
            ("require_steps", count 200000), ("seq_per_step", count 16),
            ("warmup", .array [.null, .object []])])])])]),
    ("data_sampling", .object [
      ("enabled", .boolean true), ("num_workers", count 0),
      ("curriculum_learning", .object [
        ("enabled", .boolean true), ("data_cluster_path", .string "/data/clusters"),
        ("min_difficulty_floor", count 1),
        ("curriculum_metrics", .object [
          ("seqlen", .object [
            ("index_to_sample_path", .string "/data/samples"),
            ("index_to_metric_path", .string "/data/metrics"),
            ("difficulty_type", .string "value"), ("clustering_type", .string "single_cluster"),
            ("min_difficulty", count 80), ("max_difficulty", count 2048),
            ("schedule_type", .string "fixed_root"),
            ("schedule_config", .object [
              ("total_curriculum_step", count 110000), ("difficulty_step", count 8),
              ("root_degree", count 2), ("note", .string "x")])])])])])])]
where
  /-- A small number. -/
  count (n : Fin 1000000) : Value := .number (.integer n (by omega))

/-- A configuration with unknown members in all places, null among them, is written as it was. -/
theorem toValue_annotatedValue :
  ∃ c, ofValue annotatedValue.sorted = .ok c
    ∧ c.toValue = annotatedValue.sorted
    ∧ ofValue c.toValue = .ok c
  := by
  have loads : (ofValue annotatedValue.sorted).isOk = true := by decide +kernel
  cases loaded : ofValue annotatedValue.sorted with
  | error e => simp [loaded, Except.isOk, Except.toBool] at loads
  | ok c =>
    obtain ⟨-, same, again⟩ := toValue_eq_of_ofValue loaded
    exact ⟨c, rfl, same annotatedValue.canonical_sorted, again⟩

end Config

end ConfigTemplate.Training
