import ConfigTemplate.Proofs.Template.Structural
import ConfigTemplate.Template.Builtin

/-!
# The outline of the built-in template

The built-in template is the text of an outline, so that what holds of outlines holds of it.  The
outline is put together object by object, in the order of the text.
-/

namespace ConfigTemplate

open Json

namespace BuiltinOutline

/-! ### Parts of outlines -/

/-- The blank characters of a string. -/
def blanks (s : String) : Blanks :=
  ⟨s.toList.filter isSpace, fun _ mem => (List.mem_filter.1 mem).2⟩

/-- A character that stands for itself, if it can. -/
def plainPiece? (c : Char) : Option Piece :=
  if allowed : c ≠ '"' ∧ c ≠ '\\' ∧ ¬c < ' ' then some (.plain c allowed) else none

/-- The characters of a string, each standing for itself; those that cannot are left out. -/
def pieces (s : String) : List Piece := s.toList.filterMap plainPiece?

/-- What stands in front of a value: blanks, the key, the colon and blanks. -/
def label (before key after : String) : Label :=
  ⟨blanks before, pieces key, .none, blanks after⟩

/-- A bare placeholder. -/
def bare (name : String) (isName : isPlaceholderName name.toList = true) : Outline Slot :=
  .leaf (.bare name.toList isName)

/-- A string. -/
def text (s : String) : Outline Slot := .leaf (.literal (.string (pieces s)))

/-- A truth value. -/
def truth (b : Bool) : Outline Slot := .leaf (.literal (.boolean b))

/-- A small number. -/
def natural (n : Fin 1000) : Outline Slot :=
  .leaf (.literal (.number (.ofInt n (by omega))))

/-- An array without blanks. -/
def array (first : Outline Slot) (rest : List (Outline Slot)) : Outline Slot :=
  .array (items first rest)
where
  /-- The items of the array. -/
  items (first : Outline Slot) : List (Outline Slot) → Outline.Items Slot
    | [] => .last .none first .none
    | next :: rest => .cons .none first .none (items next rest)

/-- An object with blanks in front of its end. -/
def object (close : String) (first : Label × Outline Slot) (rest : List (Label × Outline Slot)) :
    Outline Slot :=
  .object (members first rest)
where
  /-- The members of the object. -/
  members (first : Label × Outline Slot) :
      List (Label × Outline Slot) → Outline.Members Slot
    | [] => .last first.1 first.2 (blanks close)
    | next :: rest => .cons first.1 first.2 .none (members next rest)

/-- One with a fraction. -/
def one : NumeralText where
  numeral := ⟨false, ['1'], some ['0'], none⟩
  letter := 'E'
  number := .float ⟨false, 1023 <<< 52, by decide⟩
  valid := ⟨by decide, by decide, by decide, nofun, nofun⟩
  isLetter := .inr rfl
  denotes := by decide +kernel

/-! ### The objects of the template -/

/-- The partitioning of the optimizer. -/
def zeroOptimization : Outline Slot :=
  object "\n  " (label "\n    " "stage" " ", bare "ZERO_STAGE" (by decide)) []

/-- The scaling of the loss. -/
def fp16 : Outline Slot :=
  object "\n  "
    (label "\n    " "enabled" " ", truth true)
    [(label "\n    " "loss_scale" " ", natural 0),
      (label "\n    " "loss_scale_window" " ", natural 500),
      (label "\n    " "hysteresis" " ", natural 2),
      (label "\n    " "min_loss_scale" " ", natural 1),
      (label "\n    " "initial_scale_power" " ", natural 11)]

/-- The steps of the linear ramp. -/
def linearSchedule : Outline Slot :=
  object "\n          "
    (label "\n            " "require_steps" " ", bare "LTD_STEP" (by decide))
    [(label "\n            " "seq_per_step" " ", natural 16)]

/-- The ramp of the number of kept tokens. -/
def tokenSchedule : Outline Slot :=
  object "\n        "
    (label "\n          " "min_value" " ", bare "LTD_MIN" (by decide))
    [(label "\n          " "max_value" " ", bare "LTD_MAX" (by decide)),
      (label "\n          " "schedule_type" "", text "fixed_linear"),
      (label "\n          " "schedule_config" " ", linearSchedule)]

/-- The layers that drop tokens. -/
def layerIds : Outline Slot :=
  array (natural 1) [natural 2, natural 3, natural 4, natural 5, natural 6, natural 7, natural 8,
    natural 9, natural 10, natural 11, natural 12, natural 13, natural 14, natural 15, natural 16,
    natural 17, natural 18, natural 19, natural 20, natural 21, natural 22]

/-- Random layer-token dropping. -/
def randomLtd : Outline Slot :=
  object "\n      "
    (label "\n        " "enabled" " ", bare "LTD_ENABLED" (by decide))
    [(label "\n        " "total_layer_num" " ", natural 24),
      (label "\n        " "random_ltd_layer_num" " ", natural 22),
      (label "\n        " "random_ltd_layer_id" " ", layerIds),
      (label "\n        " "model_mask_name" " ", text "attention_mask"),
      (label "\n        " "model_type" " ", text "decoder"),
      (label "\n        " "hidden_state_order" " ", text "seq_batch_dim"),
      (label "\n        " "random_ltd_schedule" " ", tokenSchedule)]

/-- The routing of tokens. -/
def dataRouting : Outline Slot :=
  object "\n    "
    (label "\n      " "enabled" " ", bare "LTD_ENABLED" (by decide))
    [(label "\n      " "random_ltd" "", randomLtd)]

/-- The ramp of the difficulty. -/
def rootSchedule : Outline Slot :=
  object "\n            "
    (label "\n              " "total_curriculum_step" " ", bare "CL_1st_TOTAL_STEP" (by decide))
    [(label "\n              " "difficulty_step" " ", bare "CL_1st_DIFF_STEP" (by decide)),
      (label "\n              " "root_degree" " ", bare "CL_1st_ROOT" (by decide))]

/-- The metric of the curriculum. -/
def metric : Outline Slot :=
  object "\n          "
    (label "\n            " "index_to_sample_path" " ", text "CL_1st_SAMPLE_PATH")
    [(label "\n            " "index_to_metric_path" " ", text "CL_1st_METRIC_PATH"),
      (label "\n            " "difficulty_type" " ", text "CL_1st_DIFF_TYPE"),
      (label "\n            " "clustering_type" " ", text "CL_1st_CLUSTER_TYPE"),
      (label "\n            " "min_difficulty" " ", bare "CL_1st_MIN" (by decide)),
      (label "\n            " "max_difficulty" " ", bare "CL_1st_MAX" (by decide)),
      (label "\n            " "schedule_type" " ", text "fixed_root"),
      (label "\n            " "schedule_config" " ", rootSchedule)]

/-- The metrics, of which there is one. -/
def metrics : Outline Slot :=
  object "\n        " (label "\n          " "CL_1st_METRIC_NAME" " ", metric) []

/-- Curriculum learning. -/
def curriculumLearning : Outline Slot :=
  object "\n      "
    (label "\n        " "enabled" " ", bare "CL_ENABLED" (by decide))
    [(label "\n        " "data_cluster_path" " ", text "CL_CLUSTER_PATH"),
      (label "\n        " "curriculum_metrics" " ", metrics)]

/-- The sampling of data. -/
def dataSampling : Outline Slot :=
  object "\n    "
    (label "\n      " "enabled" " ", bare "CL_ENABLED" (by decide))
    [(label "\n      " "num_workers" " ", bare "DATA_SAMPLING_NUM_WORKERS" (by decide)),
      (label "\n      " "curriculum_learning" " ", curriculumLearning)]

/-- Data efficiency. -/
def dataEfficiency : Outline Slot :=
  object "\n  "
    (label "\n    " "enabled" " ", truth true)
    [(label "\n    " "seed" " ", bare "DATA_EFFICIENCY_SEED" (by decide)),
      (label "\n    " "data_routing" " ", dataRouting),
      (label "\n    " "data_sampling" " ", dataSampling)]

/-- The whole configuration. -/
def config : Outline Slot :=
  object "\n"
    (label "\n  " "train_batch_size" " ", bare "GBSIZE" (by decide))
    [(label "\n  " "train_micro_batch_size_per_gpu" " ", bare "MBSIZE" (by decide)),
      (label "\n  " "steps_per_print" " ", bare "LOG_INTERVAL" (by decide)),
      (label "\n\n  " "zero_optimization" " ", zeroOptimization),
      (label "\n\n  " "gradient_clipping" " ", .leaf (.literal (.number one))),
      (label "\n  " "prescale_gradients" " ", bare "PRESCALE_GRAD" (by decide)),
      (label "\n\n  " "fp16" " ", fp16),
      (⟨blanks "\n\n  ", pieces "wall_clock_breakdown", blanks " ", blanks " "⟩, truth false),
      (label "\n  " "dataloader_drop_last" " ", truth true),
      (label "\n  " "data_efficiency" " ", dataEfficiency)]

end BuiltinOutline

/-- The built-in template as an outline. -/
def builtinSheet : Sheet Slot := ⟨.none, BuiltinOutline.config, BuiltinOutline.blanks "\n"⟩

theorem builtinSheet_chars :
  builtinSheet.chars Slot.lexeme = ['\n'].intercalate (builtinLines.map String.toList)
  := by
  decide +kernel

/-- The outline shows the built-in template. -/
theorem builtinSheet_template :
  builtinSheet.template builtinName = Template.builtin
  := by
  have newline : "\n".toList = ['\n'] := by decide
  rw [Sheet.template, builtinSheet_chars, Template.builtin, builtinSource, ← newline,
    ← String.toList_intercalate, String.ofList_toList]

/-- The placeholders of the built-in template are the documented ones. -/
theorem mem_names_builtinSheet (name : String) :
  name ∈ builtinSheet.names ↔ name ∈ documentedNames
  := by
  have listed : builtinSheet.names ⊆ documentedNames ∧ documentedNames ⊆ builtinSheet.names := by
    decide +kernel
  constructor
  · intro mem
    exact listed.1 mem
  · intro mem
    exact listed.2 mem

theorem depth_builtinSheet :
  builtinSheet.root.depth ≤ depthLimit
  := by
  decide

namespace BuiltinOutline

/-! ### Values of the parts -/

variable {b : Bindings}

theorem spelled_plainPieces {cs : List Char} (plain : ∀ c ∈ cs, (plainPiece? c).isSome = true) :
  contentChars (cs.filterMap plainPiece?) = cs ∧ (cs.filterMap plainPiece?).map Piece.char = cs
  := by
  induction cs with
  | nil => exact ⟨rfl, rfl⟩
  | cons c rest ih =>
    rw [List.forall_mem_cons] at plain
    obtain ⟨content, same⟩ := ih plain.2
    unfold contentChars at content ⊢
    have first := plain.1
    unfold plainPiece? at first
    split at first
    · next allowed =>
      have found : plainPiece? c = some (.plain c allowed) := dif_pos allowed
      simp [found, content, same, Piece.chars, Piece.char]
    · contradiction

/-- A string that is no placeholder name keeps its text. -/
@[simp]
theorem stringText_pieces {s : String}
    (plain : (s.toList.all fun c => (plainPiece? c).isSome) = true)
    (noName : isPlaceholderName s.toList = false) :
  b.stringText (pieces s) = s
  := by
  obtain ⟨content, same⟩ := spelled_plainPieces (List.all_eq_true.1 plain)
  unfold Bindings.stringText pieces
  rw [content, noName, pieceText, same, String.ofList_toList]
  rfl

theorem value_bare (name : String) (isName : isPlaceholderName name.toList = true) :
  (bare name isName).value b.slotValue b.stringText
    = ((b.get? name).map Scalar.toValue).getD .null
  := by
  rw [bare, Outline.value, Bindings.slotValue, String.ofList_toList]

@[simp]
theorem value_array (first : Outline Slot) (rest : List (Outline Slot)) :
  (array first rest).value b.slotValue b.stringText
    = .array ((first :: rest).map (·.value b.slotValue b.stringText))
  := by
  have step : (array.items first rest).values b.slotValue b.stringText
      = (first :: rest).map (·.value b.slotValue b.stringText) := by
    induction rest generalizing first with
    | nil => rfl
    | cons next rest ih =>
      rw [array.items, Outline.Items.values, ih]
      rfl
  rw [array, Outline.value, step]

@[simp]
theorem value_object (close : String) (first : Label × Outline Slot)
    (rest : List (Label × Outline Slot)) :
  (object close first rest).value b.slotValue b.stringText
    = .object (sortEntries ((first :: rest).map fun (label, part) =>
        (b.stringText label.key, part.value b.slotValue b.stringText)))
  := by
  have step : (object.members close first rest).entries b.slotValue b.stringText
      = (first :: rest).map fun (label, part) =>
        (b.stringText label.key, part.value b.slotValue b.stringText) := by
    induction rest generalizing first with
    | nil => rfl
    | cons next rest ih =>
      rw [object.members, Outline.Members.entries, ih]
      rfl
  rw [object, Outline.value, step]

end BuiltinOutline

end ConfigTemplate
