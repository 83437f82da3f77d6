import ConfigTemplate.Proofs.Json.Alike
import ConfigTemplate.Proofs.Training.Shapes
import ConfigTemplate.Proofs.Validation.Sections

/-!
# Unknown members of configurations

The codec of each record of a training configuration is inert to members that the record does not
know.  So it makes no difference to a configuration and to the report on it which such members there
are, in any of the records: `Config.known_eq_of_alike`.
-/

namespace ConfigTemplate.Training

open Json Json.Codec

instance ZeroOptimization.inert_codec : codec.Inert shape known :=
  inert_record rfl fun _ _ => rfl

instance Fp16.inert_codec : codec.Inert shape known :=
  inert_record rfl fun _ _ => rfl

instance LinearSchedule.inert_codec : codec.Inert shape known :=
  inert_record rfl fun _ _ => rfl

instance TokenSchedule.inert_codec : codec.Inert shape known :=
  inert_record rfl fun _ _ => rfl

instance RandomLtd.inert_codec : codec.Inert shape known :=
  inert_record rfl fun _ _ => rfl

instance DataRouting.inert_codec : codec.Inert shape known :=
  inert_record rfl fun _ _ => rfl

instance RootSchedule.inert_codec : codec.Inert shape known :=
  inert_record rfl fun _ _ => rfl

instance Metric.inert_codec : codec.Inert shape known :=
  inert_record rfl fun _ _ => rfl

instance CurriculumLearning.inert_codec : codec.Inert shape known :=
  inert_record rfl fun _ _ => rfl

instance DataSampling.inert_codec : codec.Inert shape known :=
  inert_record rfl fun _ _ => rfl

instance DataEfficiency.inert_codec : codec.Inert shape known :=
  inert_record rfl fun _ _ => rfl

namespace Config

instance inert_codec : codec.Inert shape known :=
  inert_record rfl fun _ _ => rfl

/-- From values that are alike, configurations are loaded of which the same is known. -/
theorem exists_of_alike {v w : Value} (alike : shape.Alike v w) {c : Config}
    (loaded : ofValue v = .ok c) :
  ∃ d, ofValue w = .ok d ∧ d.known = c.known
  := by
  obtain ⟨d, reads, same⟩ := inert_codec.exists_reads alike (ofValue_eq_ok_iff.1 loaded)
  exact ⟨d, ofValue_eq_ok_iff.2 reads, same⟩

/-- **Unknown members.**  If a configuration is loaded from a value, one is also loaded from the
value with other unknown members, in any of its records; all fields of the two agree, and so do the
reports on them. -/
theorem known_eq_of_alike {v w : Value} (alike : shape.Alike v w) :
  ((∃ c, ofValue v = .ok c) ↔ ∃ d, ofValue w = .ok d)
    ∧ ∀ c d, ofValue v = .ok c → ofValue w = .ok d →
      c.known = d.known ∧ ∀ check, validate check c = validate check d
  := by
  constructor
  · constructor
    · rintro ⟨c, loaded⟩
      obtain ⟨d, also, -⟩ := exists_of_alike alike loaded
      exact ⟨d, also⟩
    · rintro ⟨d, loaded⟩
      obtain ⟨c, also, -⟩ := exists_of_alike (alike.symm shape) loaded
      exact ⟨c, also⟩
  · intro c d loaded also
    obtain ⟨e, again, same⟩ := exists_of_alike alike loaded
    obtain rfl : e = d := Except.ok.inj (again.symm.trans also)
    refine ⟨same.symm, ?_⟩
    intro check
    rw [← Validation.validate_known check c, ← Validation.validate_known check e, same]

/-- A configuration with notes in each of its records. -/
def notedValue (notes : List (String × Value)) : Value := .object ([
  ("train_batch_size", count 256), ("train_micro_batch_size_per_gpu", count 4),
  ("steps_per_print", count 10), ("zero_optimization", .object (("stage", count 1) :: notes)),
  ("prescale_gradients", .boolean false),
  ("fp16", .object (notes ++ [
    ("enabled", .boolean true), ("loss_scale", count 0), ("loss_scale_window", count 500),
    ("hysteresis", count 2), ("min_loss_scale", count 1), ("initial_scale_power", count 11)])),
  ("data_efficiency", .object ([
    ("enabled", .boolean true), ("seed", count 1234),
    ("data_routing", .object ([
      ("enabled", .boolean true),
      ("random_ltd", .object (notes ++ [
        ("enabled", .boolean true), ("total_layer_num", count 3),
        ("random_ltd_layer_num", count 2), ("random_ltd_layer_id", .array [count 1, count 2]),
        ("model_mask_name", .string "attention_mask"), ("model_type", .string "decoder"),
        ("hidden_state_order", .string "seq_batch_dim"),
        ("random_ltd_schedule", .object ([
          ("min_value", count 128), ("max_value", count 2048),
          ("schedule_type", .string "fixed_linear"),
          ("schedule_config", .object (notes ++ [
            ("require_steps", count 200000), ("seq_per_step", count 16)]))] ++ notes))]))]
      ++ notes)),
    ("data_sampling", .object (notes ++ [
      ("enabled", .boolean true), ("num_workers", count 0),
      ("curriculum_learning", .object ([
        ("enabled", .boolean true), ("data_cluster_path", .string "/data/clusters"),
        ("curriculum_metrics", .object [
          ("seqlen", .object (notes ++ [
            ("index_to_sample_path", .string "/data/samples"),
            ("index_to_metric_path", .string "/data/metrics"),
            ("difficulty_type", .string "value"), ("clustering_type", .string "single_cluster"),
            ("min_difficulty", count 80), ("max_difficulty", count 2048),
            ("schedule_type", .string "fixed_root"),
            ("schedule_config", .object ([
              ("total_curriculum_step", count 110000), ("difficulty_step", count 8),
              ("root_degree", count 2)] ++ notes))]))])] ++ notes))]))] ++ notes))] ++ notes)
where
  /-- A small number. -/
  count (n : Fin 0x100000) : Value := .number (.integer n (by omega))

/-- In every record of a configuration a note is changed, one is taken away and one is added. -/
theorem known_notedValue :
  shape.Alike (notedValue [("note", .null), ("author", .string "x")])
      (notedValue [("note", .boolean true), ("stages", .array [.object []])])
    ∧ ∃ c d, ofValue (notedValue [("note", .null), ("author", .string "x")]) = .ok c
      ∧ ofValue (notedValue [("note", .boolean true), ("stages", .array [.object []])]) = .ok d
      ∧ c.known = d.known
      ∧ ∀ check, validate check c = validate check d
  := by
  have alike : shape.Alike (notedValue [("note", .null), ("author", .string "x")])
      (notedValue [("note", .boolean true), ("stages", .array [.object []])]) := by
    simp [shape, ZeroOptimization.shape, Fp16.shape, DataEfficiency.shape, DataRouting.shape,
      RandomLtd.shape, TokenSchedule.shape, LinearSchedule.shape, DataSampling.shape,
      CurriculumLearning.shape, Metric.shape, RootSchedule.shape, notedValue, Shape.Alike,
      Shape.AlikeFields, valuesOf, Corresponding]
  refine ⟨alike, ?_⟩
  obtain ⟨both, agree⟩ := known_eq_of_alike alike
  have loads : (ofValue (notedValue [("note", .null), ("author", .string "x")])).isOk = true := by
    decide +kernel
  cases loaded : ofValue (notedValue [("note", .null), ("author", .string "x")]) with
  | error e => simp [loaded, Except.isOk, Except.toBool] at loads
  | ok c =>
    obtain ⟨d, also⟩ := both.1 ⟨c, loaded⟩
    obtain ⟨same, reports⟩ := agree c d loaded also
    exact ⟨c, d, rfl, also, same, reports⟩

end Config

end ConfigTemplate.Training
