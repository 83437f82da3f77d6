import ConfigTemplate.Json.Codec

/-!
# Training configurations

The typed form of a training configuration.  Every record keeps the members that it does not know
in `extra`, so a configuration that is read and written again loses nothing.  Numbers of schedules
keep their exact form.
-/

namespace ConfigTemplate.Training

/-- The members of a record that are none of its fields. -/
abbrev Extra := Dictionary Json.Value

/-- The partitioning of the optimizer. -/
structure ZeroOptimization where
  /-- The stage, from 0 to 3. -/
  stage : Json.Whole .unsigned8
  extra : Extra

/-- The scaling of the loss at half precision. -/
structure Fp16 where
  enabled : Bool
  /-- The scale; 0 lets it adapt. -/
  lossScale : Number
  lossScaleWindow : Json.Whole .unsigned64
  hysteresis : Json.Whole .unsigned64
  minLossScale : Number
  initialScalePower : Json.Whole .unsigned32
  extra : Extra

/-- The steps of a linear ramp. -/
structure LinearSchedule where
  requireSteps : Number
  seqPerStep : Json.Whole .unsigned64
  extra : Extra

/-- The ramp of the number of kept tokens. -/
structure TokenSchedule where
  minValue : Number
  maxValue : Number
  scheduleType : String
  scheduleConfig : LinearSchedule
  extra : Extra

/-- Random layer-token dropping. -/
structure RandomLtd where
  enabled : Bool
  /-- The number of layers of the model. -/
  totalLayerNum : Json.Whole .unsigned32
  /-- The number of layers that drop tokens. -/
  layerNum : Json.Whole .unsigned32
  /-- The layers that drop tokens. -/
  layerIds : List (Json.Whole .unsigned32)
  modelMaskName : String
  modelType : String
  hiddenStateOrder : String
  schedule : TokenSchedule
  extra : Extra

/-- The routing of tokens. -/
structure DataRouting where
  enabled : Bool
  randomLtd : RandomLtd
  extra : Extra

/-- The ramp of the difficulty. -/
structure RootSchedule where
  totalCurriculumStep : Number
  difficultyStep : Number
  rootDegree : Number
  extra : Extra

/-- A measure of difficulty with its ramp. -/
structure Metric where
  indexToSamplePath : String
  indexToMetricPath : String
  difficultyType : String
  clusteringType : String
  minDifficulty : Number
  maxDifficulty : Number
  scheduleType : String
  scheduleConfig : RootSchedule
  extra : Extra

/-- Curriculum learning. -/
structure CurriculumLearning where
  enabled : Bool
  dataClusterPath : String
  /-- The metrics under their names. -/
  metrics : Dictionary Metric
  extra : Extra

/-- The sampling of data. -/
structure DataSampling where
  enabled : Bool
  numWorkers : Json.Whole .unsigned32
  curriculumLearning : CurriculumLearning
  extra : Extra

/-- Data efficiency: routing and sampling. -/
structure DataEfficiency where
  enabled : Bool
  seed : Json.Whole .signed64
  dataRouting : DataRouting
  dataSampling : DataSampling
  extra : Extra

/-- A training configuration. -/
structure Config where
  trainBatchSize : Json.Whole .signed64
  trainMicroBatchSizePerGpu : Json.Whole .signed64
  stepsPerPrint : Json.Whole .signed64
  zeroOptimization : ZeroOptimization
  prescaleGradients : Bool
  fp16 : Fp16
  dataEfficiency : DataEfficiency
  extra : Extra

namespace Config

/-- Token dropping takes place: data efficiency, routing and dropping are all enabled. -/
def randomLtdActive (c : Config) : Bool :=
  c.dataEfficiency.enabled && c.dataEfficiency.dataRouting.enabled
    && c.dataEfficiency.dataRouting.randomLtd.enabled

/-- Curriculum learning takes place: data efficiency, sampling and the curriculum are all
enabled. -/
def curriculumActive (c : Config) : Bool :=
  c.dataEfficiency.enabled && c.dataEfficiency.dataSampling.enabled
    && c.dataEfficiency.dataSampling.curriculumLearning.enabled

end Config

end ConfigTemplate.Training
