import ConfigTemplate.Training.Config

/-!
# The known part of a configuration

Every record of a training configuration keeps the members that it does not know.  The known part of
a configuration has none of them, in no place: it is what the fields say, and two configurations
agree on all fields if their known parts are equal.
-/

namespace ConfigTemplate.Training

/-- The record without the members that it does not know. -/
def ZeroOptimization.known (z : ZeroOptimization) : ZeroOptimization :=
  { z with extra := .empty }

/-- The record without the members that it does not know. -/
def Fp16.known (f : Fp16) : Fp16 := { f with extra := .empty }

/-- The record without the members that it does not know. -/
def LinearSchedule.known (s : LinearSchedule) : LinearSchedule := { s with extra := .empty }

/-- The record without the members that it and its schedule do not know. -/
def TokenSchedule.known (s : TokenSchedule) : TokenSchedule :=
  { s with scheduleConfig := s.scheduleConfig.known, extra := .empty }

/-- The record without the members that it and its schedule do not know. -/
def RandomLtd.known (l : RandomLtd) : RandomLtd :=
  { l with schedule := l.schedule.known, extra := .empty }

/-- The block without the members that are not known in it. -/
def DataRouting.known (r : DataRouting) : DataRouting :=
  { r with randomLtd := r.randomLtd.known, extra := .empty }

/-- The record without the members that it does not know. -/
def RootSchedule.known (s : RootSchedule) : RootSchedule := { s with extra := .empty }

/-- The metric without the members that it and its schedule do not know. -/
def Metric.known (m : Metric) : Metric :=
  { m with scheduleConfig := m.scheduleConfig.known, extra := .empty }

/-- The record without the members that it and its metrics do not know.  It has all metrics,
whatever their names are. -/
def CurriculumLearning.known (c : CurriculumLearning) : CurriculumLearning :=
  { c with metrics := c.metrics.map Metric.known, extra := .empty }

/-- The block without the members that are not known in it. -/
def DataSampling.known (s : DataSampling) : DataSampling :=
  { s with curriculumLearning := s.curriculumLearning.known, extra := .empty }

/-- The section without the members that are not known in it. -/
def DataEfficiency.known (e : DataEfficiency) : DataEfficiency :=
  { e with dataRouting := e.dataRouting.known, dataSampling := e.dataSampling.known,
           extra := .empty }

/-- The configuration without the members that are not known in it. -/
def Config.known (c : Config) : Config :=
  { c with zeroOptimization := c.zeroOptimization.known, fp16 := c.fp16.known,
           dataEfficiency := c.dataEfficiency.known, extra := .empty }

end ConfigTemplate.Training
