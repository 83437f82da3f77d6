import ConfigTemplate.CommandLine.Run

/-!
# What a command looks at

The files, the variables and the paths that a command looks at, so that they can be looked up
before the command comes to its plan.  Which variables and paths these are depends on files, and
the paths also on variables.
-/

namespace ConfigTemplate

/-- The variables that the tool itself looks at. -/
def toolVariables : List String := [
  "DSTEMPLATE_TEMPLATE", "DSTEMPLATE_OUTPUT_DIR", "DSTEMPLATE_STRICT", "DSTEMPLATE_PRETTY",
  "DSTEMPLATE_CHECK_PATHS", "RUST_LOG"]

/-- The paths that a configuration names. -/
def Training.Config.paths (c : Training.Config) : List String :=
  let curriculum := c.dataEfficiency.dataSampling.curriculumLearning
  curriculum.dataClusterPath :: curriculum.metrics.entries.flatMap fun (_, m) =>
    [m.indexToSamplePath, m.indexToMetricPath]

namespace Command

/-- The files that a command reads. -/
def filesRead : Command → List String
  | .render a => a.template.toList ++ a.vars.toList
  | .placeholders path _ => path.toList
  | .validate path _ _ => [path]
  | .template => []

/-- The variables that a command looks at besides those of the tool. -/
def variablesRead (command : Command) (s : Surroundings) : List String :=
  match command with
  | .render a =>
    match (Template.load a.template s.read).result with
    | .ok t => if a.fromEnvironment then t.placeholders else []
    | .error _ => []
  | _ => []

/-- The paths of which a command may ask whether they lead anywhere. -/
def pathsChecked (command : Command) (s : Surroundings) : List String :=
  let config : Except Error Training.Config :=
    match command with
    | .render a => (a.product s).result.bind fun p => p.rendered.config
    | .validate path _ _ =>
      ((s.read path).mapError (Error.unreadable path)).bind Training.Config.ofText
    | .placeholders _ _ | .template => .error (.operationFailed "")
  match config with
  | .ok config => config.paths
  | .error _ => []

end Command

end ConfigTemplate
