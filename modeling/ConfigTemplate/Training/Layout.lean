import ConfigTemplate.Error
import ConfigTemplate.Json.Printer
import ConfigTemplate.Json.Reader
import ConfigTemplate.Training.Config

/-!
# The layout of training configurations

The JSON form of every record of a training configuration: its fields in order, with their names
and types.
-/

namespace ConfigTemplate.Training

open Json (Codec)
open Json.Codec (boolean string number whole list dictionary record)
open Json.Fields (field)

namespace ZeroOptimization

/-- The JSON form. -/
def codec : Codec ZeroOptimization :=
  record "ZeroOptimization"
    (field "stage" (whole .unsigned8))
    (fun stage extra => ⟨stage, extra⟩)
    (fun z => (z.stage, z.extra))

end ZeroOptimization

namespace Fp16

/-- The JSON form. -/
def codec : Codec Fp16 :=
  record "Fp16Config"
    (.and (field "enabled" boolean)
      (.and (field "loss_scale" number)
        (.and (field "loss_scale_window" (whole .unsigned64))
          (.and (field "hysteresis" (whole .unsigned64))
            (.and (field "min_loss_scale" number)
              (field "initial_scale_power" (whole .unsigned32)))))))
    (fun (enabled, lossScale, window, hysteresis, minLossScale, power) extra =>
      ⟨enabled, lossScale, window, hysteresis, minLossScale, power, extra⟩)
    (fun f =>
      ((f.enabled, f.lossScale, f.lossScaleWindow, f.hysteresis, f.minLossScale,
        f.initialScalePower), f.extra))

end Fp16

namespace LinearSchedule

/-- The JSON form. -/
def codec : Codec LinearSchedule :=
  record "LinearScheduleConfig"
    (.and (field "require_steps" number) (field "seq_per_step" (whole .unsigned64)))
    (fun (requireSteps, seqPerStep) extra => ⟨requireSteps, seqPerStep, extra⟩)
    (fun s => ((s.requireSteps, s.seqPerStep), s.extra))

end LinearSchedule

namespace TokenSchedule

/-- The JSON form. -/
def codec : Codec TokenSchedule :=
  record "RandomLtdSchedule"
    (.and (field "min_value" number)
      (.and (field "max_value" number)
        (.and (field "schedule_type" string)
          (field "schedule_config" LinearSchedule.codec))))
    (fun (minValue, maxValue, scheduleType, scheduleConfig) extra =>
      ⟨minValue, maxValue, scheduleType, scheduleConfig, extra⟩)
    (fun s => ((s.minValue, s.maxValue, s.scheduleType, s.scheduleConfig), s.extra))

end TokenSchedule

namespace RandomLtd

/-- The JSON form. -/
def codec : Codec RandomLtd :=
  record "RandomLtdConfig"
    (.and (field "enabled" boolean)
      (.and (field "total_layer_num" (whole .unsigned32))
        (.and (field "random_ltd_layer_num" (whole .unsigned32))
          (.and (field "random_ltd_layer_id" (list (whole .unsigned32)))
            (.and (field "model_mask_name" string)
              (.and (field "model_type" string)
                (.and (field "hidden_state_order" string)
                  (field "random_ltd_schedule" TokenSchedule.codec))))))))
    (fun (enabled, totalLayerNum, layerNum, layerIds, maskName, modelType, order, schedule) extra =>
      ⟨enabled, totalLayerNum, layerNum, layerIds, maskName, modelType, order, schedule, extra⟩)
    (fun l =>
      ((l.enabled, l.totalLayerNum, l.layerNum, l.layerIds, l.modelMaskName, l.modelType,
        l.hiddenStateOrder, l.schedule), l.extra))

end RandomLtd

namespace DataRouting

/-- The JSON form. -/
def codec : Codec DataRouting :=
  record "DataRoutingConfig"
    (.and (field "enabled" boolean) (field "random_ltd" RandomLtd.codec))
    (fun (enabled, randomLtd) extra => ⟨enabled, randomLtd, extra⟩)
    (fun r => ((r.enabled, r.randomLtd), r.extra))

end DataRouting

namespace RootSchedule

/-- The JSON form. -/
def codec : Codec RootSchedule :=
  record "RootScheduleConfig"
    (.and (field "total_curriculum_step" number)
      (.and (field "difficulty_step" number) (field "root_degree" number)))
    (fun (totalStep, difficultyStep, rootDegree) extra =>
      ⟨totalStep, difficultyStep, rootDegree, extra⟩)
    (fun s => ((s.totalCurriculumStep, s.difficultyStep, s.rootDegree), s.extra))

end RootSchedule

namespace Metric

/-- The JSON form. -/
def codec : Codec Metric :=
  record "CurriculumMetric"
    (.and (field "index_to_sample_path" string)
      (.and (field "index_to_metric_path" string)
        (.and (field "difficulty_type" string)
          (.and (field "clustering_type" string)
            (.and (field "min_difficulty" number)
              (.and (field "max_difficulty" number)
                (.and (field "schedule_type" string)
                  (field "schedule_config" RootSchedule.codec))))))))
    (fun (samplePath, metricPath, difficulty, clustering, least, greatest, kind, schedule) extra =>
      ⟨samplePath, metricPath, difficulty, clustering, least, greatest, kind, schedule, extra⟩)
    (fun m =>
      ((m.indexToSamplePath, m.indexToMetricPath, m.difficultyType, m.clusteringType,
        m.minDifficulty, m.maxDifficulty, m.scheduleType, m.scheduleConfig), m.extra))

end Metric

namespace CurriculumLearning

/-- The JSON form. -/
def codec : Codec CurriculumLearning :=
  record "CurriculumLearningConfig"
    (.and (field "enabled" boolean)
      (.and (field "data_cluster_path" string)
        (field "curriculum_metrics" (dictionary Metric.codec))))
    (fun (enabled, clusterPath, metrics) extra => ⟨enabled, clusterPath, metrics, extra⟩)
    (fun c => ((c.enabled, c.dataClusterPath, c.metrics), c.extra))

end CurriculumLearning

namespace DataSampling

/-- The JSON form. -/
def codec : Codec DataSampling :=
  record "DataSamplingConfig"
    (.and (field "enabled" boolean)
      (.and (field "num_workers" (whole .unsigned32))
        (field "curriculum_learning" CurriculumLearning.codec)))
    (fun (enabled, numWorkers, curriculum) extra => ⟨enabled, numWorkers, curriculum, extra⟩)
    (fun s => ((s.enabled, s.numWorkers, s.curriculumLearning), s.extra))

end DataSampling

namespace DataEfficiency

/-- The JSON form. -/
def codec : Codec DataEfficiency :=
  record "DataEfficiencyConfig"
    (.and (field "enabled" boolean)
      (.and (field "seed" (whole .signed64))
        (.and (field "data_routing" DataRouting.codec)
          (field "data_sampling" DataSampling.codec))))
    (fun (enabled, seed, routing, sampling) extra => ⟨enabled, seed, routing, sampling, extra⟩)
    (fun e => ((e.enabled, e.seed, e.dataRouting, e.dataSampling), e.extra))

end DataEfficiency

namespace Config

/-- The JSON form. -/
def codec : Codec Config :=
  record "DsConfig"
    (.and (field "train_batch_size" (whole .signed64))
      (.and (field "train_micro_batch_size_per_gpu" (whole .signed64))
        (.and (field "steps_per_print" (whole .signed64))
          (.and (field "zero_optimization" ZeroOptimization.codec)
            (.and (field "prescale_gradients" boolean)
              (.and (field "fp16" Fp16.codec)
                (field "data_efficiency" DataEfficiency.codec)))))))
    (fun (batch, microBatch, steps, zero, prescale, fp16, efficiency) extra =>
      ⟨batch, microBatch, steps, zero, prescale, fp16, efficiency, extra⟩)
    (fun c =>
      ((c.trainBatchSize, c.trainMicroBatchSizePerGpu, c.stepsPerPrint, c.zeroOptimization,
        c.prescaleGradients, c.fp16, c.dataEfficiency), c.extra))

/-- The configuration of a document. -/
def ofDocument (d : Json.Document) : Except Error Config :=
  (codec.readDocument d).mapError .json

/-- The configuration of a JSON text. -/
def ofText (text : String) : Except Error Config := ofDocument (.ofText text)

/-- The configuration of a JSON value. -/
def ofValue (value : Json.Value) : Except Error Config := ofDocument (.ofValue value)

/-- The JSON form of a configuration, in the order of the fields. -/
def written (c : Config) : Json.Value := codec.write c

/-- The JSON value of a configuration, with sorted members. -/
def toValue (c : Config) : Json.Value := c.written.sorted

/-- The JSON text of a configuration over several lines. -/
def toPretty (c : Config) : String := c.written.pretty

end Config

end ConfigTemplate.Training
