import ConfigTemplate.Scalar
import ConfigTemplate.Training.Vocabulary
import ConfigTemplate.Validation.Training

/-!
# Rules of token dropping

The layers that drop tokens have to be as many as declared, below the total and different from
each other, whether dropping is enabled or not; the schedule matters only if it is.
-/

namespace ConfigTemplate.Validation

open Training (Config DataRouting RandomLtd)

/-- An error on token dropping. -/
def routingError (text : String) : Message := ⟨text, .error, "random_ltd"⟩

/-- A warning on token dropping. -/
def routingWarning (text : String) : Message := ⟨text, .warning, "random_ltd"⟩

/-- Numbers in a message. -/
def listedIntegers (values : List Int) : String :=
  ", ".intercalate (values.map Number.integerText)

/-- Puts a number at its place in an increasing list, unless it is there. -/
def insertInteger (value : Int) : List Int → List Int
  | [] => [value]
  | other :: rest =>
    if value < other then value :: other :: rest
    else if other < value then other :: insertInteger value rest
    else other :: rest

/-- The numbers of a list that are among those seen before them, in increasing order and each
once. -/
def repeatedAfter (seen : List Int) : List Int → List Int
  | [] => []
  | value :: rest =>
    if seen.contains value then insertInteger value (repeatedAfter seen rest)
    else repeatedAfter (value :: seen) rest

/-- The numbers that occur more than once. -/
def duplicates (values : List Int) : List Int := repeatedAfter [] values

/-- The messages on the layers that drop tokens. -/
def layerMessages (ltd : RandomLtd) : List Message :=
  let ids := ltd.layerIds.map Json.Whole.value
  let total := ltd.totalLayerNum.value
  let declared := ltd.layerNum.value
  let outOfRange := ids.filter (total ≤ ·)
  let repeated := duplicates ids
  (if total < declared then
    [routingError ("random_ltd_layer_num " ++ Number.integerText declared
      ++ " exceeds total_layer_num " ++ Number.integerText total)] else [])
  ++ (if (ids.length : Int) ≠ declared then
    [routingError ("random_ltd_layer_id has " ++ toString ids.length
      ++ " entries but random_ltd_layer_num is " ++ Number.integerText declared)] else [])
  ++ (if !outOfRange.isEmpty then
    [routingError ("Layer ids not below total_layer_num " ++ Number.integerText total ++ ": "
      ++ listedIntegers outOfRange)] else [])
  ++ (if !repeated.isEmpty then
    [routingError ("Duplicate layer ids: " ++ listedIntegers repeated)] else [])

/-- The messages on the schedule of token dropping. -/
def tokenScheduleMessages (ltd : RandomLtd) : List Message :=
  let schedule := ltd.schedule
  let steps := schedule.scheduleConfig.requireSteps
  (if schedule.maxValue.toBinary < schedule.minValue.toBinary then
    [routingError ("Schedule min_value " ++ schedule.minValue.text ++ " exceeds max_value "
      ++ schedule.maxValue.text)] else [])
  ++ (if schedule.minValue.toBinary < zero then
    [routingError ("Schedule min_value " ++ schedule.minValue.text ++ " is negative")] else [])
  ++ (if steps.toBinary ≤ zero then
    [routingError ("Schedule require_steps must be positive (got " ++ steps.text ++ ")")] else [])
  ++ (if schedule.scheduleType ≠ Training.linearSchedule then
    [routingWarning ("Unknown random-LTD schedule type: " ++ schedule.scheduleType)] else [])

/-- The messages on the routing of tokens. -/
def routingMessages (c : Config) : List Message :=
  let routing := c.dataEfficiency.dataRouting
  let ltd := routing.randomLtd
  (if routing.enabled != ltd.enabled then
    [routingWarning ("data_routing.enabled (" ++ Scalar.booleanText routing.enabled
      ++ ") differs from random_ltd.enabled (" ++ Scalar.booleanText ltd.enabled ++ ")")] else [])
  ++ layerMessages ltd
  ++ (if ltd.enabled then tokenScheduleMessages ltd
    else [⟨"Random-LTD disabled", .info, "random_ltd"⟩])

end ConfigTemplate.Validation
