import ConfigTemplate.Proofs.Json.Repetition
import ConfigTemplate.Proofs.Training.RoundTrip

/-!
# Configurations in a text

The shapes of the records of a training configuration, and the codec of each record faithful to its
shape, from the innermost records to the whole.  So a configuration is read from a text if the text
repeats no field of a record, every metric in it can be read, and a configuration is loaded from the
value of the text: `Config.ofText_eq_ok_iff`.
-/

namespace ConfigTemplate.Training

open Json Json.Codec

/-! ### The shapes of the records -/

namespace ZeroOptimization

/-- The shape of the JSON form. -/
def shape : Shape := .record [("stage", .plain)]

instance faithful_codec : codec.Faithful shape :=
  faithful_record rfl

end ZeroOptimization

namespace Fp16

/-- The shape of the JSON form. -/
def shape : Shape := .record [
  ("enabled", .plain), ("loss_scale", .plain), ("loss_scale_window", .plain),
  ("hysteresis", .plain), ("min_loss_scale", .plain), ("initial_scale_power", .plain)]

instance faithful_codec : codec.Faithful shape :=
  faithful_record rfl

end Fp16

namespace LinearSchedule

/-- The shape of the JSON form. -/
def shape : Shape := .record [("require_steps", .plain), ("seq_per_step", .plain)]

instance faithful_codec : codec.Faithful shape :=
  faithful_record rfl

end LinearSchedule

namespace TokenSchedule

/-- The shape of the JSON form. -/
def shape : Shape := .record [
  ("min_value", .plain), ("max_value", .plain), ("schedule_type", .plain),
  ("schedule_config", LinearSchedule.shape)]

instance faithful_codec : codec.Faithful shape :=
  faithful_record rfl

end TokenSchedule

namespace RandomLtd

/-- The shape of the JSON form. -/
def shape : Shape := .record [
  ("enabled", .plain), ("total_layer_num", .plain), ("random_ltd_layer_num", .plain),
  ("random_ltd_layer_id", .plain), ("model_mask_name", .plain), ("model_type", .plain),
  ("hidden_state_order", .plain), ("random_ltd_schedule", TokenSchedule.shape)]

instance faithful_codec : codec.Faithful shape :=
  faithful_record rfl

end RandomLtd

namespace DataRouting

/-- The shape of the JSON form. -/
def shape : Shape := .record [("enabled", .plain), ("random_ltd", RandomLtd.shape)]

instance faithful_codec : codec.Faithful shape :=
  faithful_record rfl

end DataRouting

namespace RootSchedule

/-- The shape of the JSON form. -/
def shape : Shape := .record [
  ("total_curriculum_step", .plain), ("difficulty_step", .plain), ("root_degree", .plain)]

instance faithful_codec : codec.Faithful shape :=
  faithful_record rfl

end RootSchedule

namespace Metric

/-- The shape of the JSON form. -/
def shape : Shape := .record [
  ("index_to_sample_path", .plain), ("index_to_metric_path", .plain),
  ("difficulty_type", .plain), ("clustering_type", .plain), ("min_difficulty", .plain),
  ("max_difficulty", .plain), ("schedule_type", .plain),
  ("schedule_config", RootSchedule.shape)]

instance faithful_codec : codec.Faithful shape :=
  faithful_record rfl

end Metric

namespace CurriculumLearning

/-- The shape of the JSON form. -/
def shape : Shape := .record [
  ("enabled", .plain), ("data_cluster_path", .plain),
  ("curriculum_metrics", .dictionary Metric.codec.Accepts Metric.shape)]

instance faithful_codec : codec.Faithful shape :=
  faithful_record rfl

end CurriculumLearning

namespace DataSampling

/-- The shape of the JSON form. -/
def shape : Shape := .record [
  ("enabled", .plain), ("num_workers", .plain),
  ("curriculum_learning", CurriculumLearning.shape)]

instance faithful_codec : codec.Faithful shape :=
  faithful_record rfl

end DataSampling

namespace DataEfficiency

/-- The shape of the JSON form. -/
def shape : Shape := .record [
  ("enabled", .plain), ("seed", .plain), ("data_routing", DataRouting.shape),
  ("data_sampling", DataSampling.shape)]

instance faithful_codec : codec.Faithful shape :=
  faithful_record rfl

end DataEfficiency

namespace Config

/-- The shape of the JSON form. -/
def shape : Shape := .record [
  ("train_batch_size", .plain), ("train_micro_batch_size_per_gpu", .plain),
  ("steps_per_print", .plain), ("zero_optimization", ZeroOptimization.shape),
  ("prescale_gradients", .plain), ("fp16", Fp16.shape),
  ("data_efficiency", DataEfficiency.shape)]

instance faithful_codec : codec.Faithful shape :=
  faithful_record rfl

/-! ### Reading a text -/

/-- A configuration is read from a document that has a value if the document is as the shape asks
and the configuration is loaded from the value. -/
theorem ofDocument_eq_ok_iff {d : Document} {value : Value} {c : Config}
    (denotes : d.toValue = .ok value) :
  ofDocument d = .ok c ↔ shape.Single d.root ∧ ofValue value = .ok c
  := by
  obtain ⟨inner, final⟩ := eq_ok_of_readWith denotes
  rw [ofValue_eq_ok_iff, ← faithful_codec.read_iff inner, ofDocument, mapError_eq_ok_iff,
    readDocument, Document.readWith, final]
  cases codec.read d.root with
  | error fault => rfl
  | ok c => rfl

end Config

end ConfigTemplate.Training
