import ConfigTemplate.Training.Config
import ConfigTemplate.Validation.Report

/-!
# Rules of training

The rules for the sizes of batches, the interval of progress prints, the stage of the optimizer
and the scaling of the loss.  Each section gives its own messages.
-/

namespace ConfigTemplate.Validation

open Training (Config)

/-- Zero, to compare numbers with. -/
def zero : Binary64 := .zero false

/-- The messages on the sizes of batches. -/
def batchMessages (c : Config) : List Message :=
  let whole := c.trainBatchSize.value
  let part := c.trainMicroBatchSizePerGpu.value
  let error (text : String) : Message := ⟨text, .error, "batch"⟩
  (if whole ≤ 0 then [error "train_batch_size must be positive"] else [])
    ++ (if part ≤ 0 then [error "train_micro_batch_size_per_gpu must be positive"] else [])
    ++ (if whole ≤ 0 || part ≤ 0 then []
      else if whole < part then
        [error ("Micro batch size " ++ Number.integerText part ++ " exceeds global batch size "
          ++ Number.integerText whole)]
      else if whole % part ≠ 0 then
        [error ("Global batch size " ++ Number.integerText whole
          ++ " is not divisible by micro batch size " ++ Number.integerText part)]
      else
        [⟨"Global batch " ++ Number.integerText whole ++ " = "
          ++ Number.integerText (whole / part) ++ " micro batches of " ++ Number.integerText part
          ++ " (accumulation x data-parallel)", .info, "batch"⟩])

/-- The messages on the interval of progress prints. -/
def loggingMessages (c : Config) : List Message :=
  if c.stepsPerPrint.value ≤ 0 then
    [⟨"steps_per_print must be positive", .error, "logging"⟩]
  else []

/-- The highest stage of the optimizer. -/
def maxZeroStage : Int := 3

/-- The messages on the stage of the optimizer. -/
def zeroMessages (c : Config) : List Message :=
  let stage := c.zeroOptimization.stage.value
  if maxZeroStage < stage then
    [⟨"ZeRO stage " ++ Number.integerText stage ++ " is outside 0-"
      ++ Number.integerText maxZeroStage, .error, "zero"⟩]
  else [⟨"ZeRO stage " ++ Number.integerText stage, .info, "zero"⟩]

/-- The messages on the scaling of the loss; a scale of zero is adaptive. -/
def fp16Messages (c : Config) : List Message :=
  let fp16 := c.fp16
  let error (text : String) : Message := ⟨text, .error, "fp16"⟩
  if !fp16.enabled then []
  else
    (if fp16.lossScale.toBinary < zero then
      [error ("fp16.loss_scale must not be negative (got " ++ fp16.lossScale.text ++ ")")]
      else [])
    ++ (if fp16.lossScaleWindow.value = 0 then
      [error "fp16.loss_scale_window must be positive"] else [])
    ++ (if fp16.minLossScale.toBinary ≤ zero then
      [error ("fp16.min_loss_scale must be positive (got " ++ fp16.minLossScale.text ++ ")")]
      else [])

end ConfigTemplate.Validation
