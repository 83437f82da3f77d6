import ConfigTemplate.Proofs.CommandLine.Steps
import ConfigTemplate.Proofs.Training.Shapes
import ConfigTemplate.Proofs.Validation.Rules

/-!
# Validating what was rendered

A rendered configuration is validated on the way to its file, and the file can be validated again.
The first time the configuration is loaded from the value of the text, the second time it is read
from the text itself.  So the file passes again, with the same errors, provided that its text is as
the shape of configurations asks; a text that repeats a field is written, but not read again:
`revalidate_rendered`.
-/

namespace ConfigTemplate

open Json Training

/-! ### Reports -/

/-- Whether a configuration passes does not depend on the paths that are looked up. -/
theorem passed_validate_congr (check other : Validation.PathCheck) (c : Config) :
  (validate check c).passed = true ↔ (validate other c).passed = true
  := by
  simp only [validate, Report.passed_ofMessages_iff, Validation.faultless_validationMessages]

/-- A report that passes has no errors. -/
theorem errors_validate_of_passed {check : Validation.PathCheck} {c : Config}
    (passed : (validate check c).passed = true) :
  (validate check c).errors = []
  := by
  rw [validate, Report.passed_ofMessages_iff] at passed
  rw [validate, Report.errors, Report.withSeverity, Report.messages_ofMessages,
    List.filter_eq_nil_iff]
  simpa [Each] using passed

/-- A file whose text has the value of a configuration is accepted if the text is as the shape of
configurations asks, and then the report is that on the configuration. -/
theorem result_validateFile_eq_ok_iff (check : Validation.PathCheck) (path : String)
    (report : Report) {text : String} {content : Except FileFault String} {value : Value}
    {c : Config} (read : content = .ok text) (denotes : parse text = .ok value)
    (loaded : Config.ofValue value = .ok c) :
  (validateFile check path content).result = .ok report
    ↔ Config.shape.Single (Document.ofText text).root ∧ report = validate check c
  := by
  have accepted (c' : Config) : Config.ofText text = .ok c'
      ↔ Config.shape.Single (Document.ofText text).root ∧ c' = c := by
    have same : c' = c ↔ Config.ofValue value = .ok c' := by
      rw [loaded, Except.ok.injEq, eq_comm]
    rw [same]
    exact Config.ofDocument_eq_ok_iff denotes
  have validated : (validateFile check path content).result
      = (Config.ofText text).map (validate check) := by
    subst read
    simp only [validateFile, Logged.result_bind, Logged.result_info, Logged.result_ofExcept,
      pure_bind]
    change Config.ofText text >>= (fun c => .ok (validate check c)) = _
    cases Config.ofText text with
    | error error => rfl
    | ok c => rfl
  rw [validated]
  constructor
  · intro h
    obtain ⟨c', reads, rfl⟩ := map_eq_ok h
    obtain ⟨single, rfl⟩ := (accepted c').1 reads
    exact ⟨single, rfl⟩
  · rintro ⟨single, rfl⟩
    rw [(accepted c).2 ⟨single, rfl⟩]
    rfl

/-- **Validating again.**  A request writes a validated configuration to a file.  Whichever paths
are looked up, the file is accepted again exactly if its text is as the shape of configurations
asks: it repeats no field of a record, and every metric in it can be read.  What is accepted passes,
with the errors of the first report, and with the same lookups the second report is the first. -/
theorem revalidate_rendered {colored : Bool} {a : RenderRequest} {environment : Environment}
    {files : FileTree} {path : String}
    (succeeds : ((Command.render a).run colored environment files).result = .ok ())
    (target : a.target? (a.settings environment) = some path)
    (validates : (a.settings environment).validate = true)
    (plain : (a.settings environment).pretty = false) :
  let settings := a.settings environment
  let after := ((Command.render a).run colored environment files).files
  ∃ p first, (a.product (.of environment files)).result = .ok p ∧ p.report = some first
    ∧ after.read path = .ok p.rendered.text
    ∧ ∀ check,
        ((∃ report, (validateFile check path (after.read path)).result = .ok report)
          ↔ Config.shape.Single (Document.ofText p.rendered.text).root)
        ∧ ∀ report, (validateFile check path (after.read path)).result = .ok report →
            report.passed = true ∧ report.errors = first.errors
            ∧ (check = (Surroundings.of environment files).pathCheck settings.checkPaths →
                report = first)
  := by
  obtain ⟨plan, planned, carried⟩ := Command.result_run_eq_ok_iff.1 succeeds
  obtain ⟨p, made, rfl⟩ := (RenderRequest.result_plan_eq_ok_iff target).1 planned
  obtain ⟨-, -, rendered, validated⟩ := RenderRequest.result_product_eq_ok_iff.1 made
  obtain ⟨c, loaded, passed, reported⟩ :=
    (RenderRequest.result_validated_eq_ok_iff validates).1 validated
  have written := Plan.read_carryOut rfl carried
  rw [← Command.files_run planned] at written
  refine ⟨p, _, made, reported, written, ?_⟩
  intro check
  have accepted (report : Report) :=
    result_validateFile_eq_ok_iff check path report written
      (Template.parse_of_render plain rendered) loaded
  constructor
  · simp only [accepted, exists_and_left, exists_eq, and_true]
  · intro report h
    obtain ⟨-, rfl⟩ := (accepted report).1 h
    have again := (passed_validate_congr _ check c).1 passed
    refine ⟨again, ?_, ?_⟩
    · rw [errors_validate_of_passed again, errors_validate_of_passed passed]
    · rintro rfl
      rfl

/-! ### A configuration that is not read again -/

/-- A system with one text in it. -/
def singleFile (text : String) : FileTree where
  entries := [(["t.json"], .file (.text text))]
  workingDirectory := []

/-- A request to write the text as it stands. -/
def copyRequest : RenderRequest where
  template := some "t.json"
  vars := none
  set := []
  fromEnvironment := false
  output := some "out.json"
  outputDirectory := none
  runName := none
  pretty := false
  allowUnknown := false
  noValidate := false
  checkPaths := false
  force := false

/-- An environment without variables. -/
def noVariables : Environment := fun _ => none

/-- A template without names is rendered as it stands. -/
theorem Template.render_of_noNames {t : Template} {mode : RenderMode} {value : Value}
    (noPlaceholders : t.occurrences = []) (noStrays : t.strayIdentifiers = [])
    (plain : mode.pretty = false) (denotes : parse t.source = .ok value) :
  t.render .empty mode = .ok ⟨t.source, value⟩
  := by
  have unused : t.placeholders = [] := by rw [placeholders, noPlaceholders]; rfl
  have checked : t.checkNames .empty mode.strict = .ok () := by
    have known : t.unknownNames .empty = [] := rfl
    simp [checkNames, missingNames, noStrays, unused, known]
  have substituted : t.substituted .empty = .ok t.source.toList := by
    rw [substituted, noPlaceholders]
    rfl
  have read : (Document.ofChars t.source.toList).toValue = .ok value := denotes
  rw [render, checked]
  simp [substituted, plain, bind, Except.bind, read, Except.mapError, pure, Except.pure]

/-- The text of a configuration that passes is copied. -/
theorem result_product_copy {text : String} {value : Value} {c : Config}
    (noPlaceholders : placeholdersOf text.toList = []) (noStrays : straysOf text.toList = [])
    (denotes : parse text = .ok value) (loaded : Config.ofValue value = .ok c)
    (passed : (validate none c).passed = true) :
  (copyRequest.product (.of noVariables (singleFile text))).result
    = .ok ⟨⟨"t.json", text, some "t.json"⟩, .empty, ⟨text, value⟩, some (validate none c)⟩
  := by
  apply RenderRequest.result_product_eq_ok_iff.2
  refine ⟨rfl, rfl, ?_, ?_⟩
  · apply Template.render_of_noNames
    · exact noPlaceholders
    · rw [Template.strayIdentifiers, noStrays]
      rfl
    · rfl
    · exact denotes
  · apply (RenderRequest.result_validated_eq_ok_iff rfl).2
    exact ⟨c, loaded, passed, rfl⟩

/-- A configuration with its first field given twice. -/
def repeatingChars : List Char :=
  match Config.annotatedValue with
  | .object members => (Value.object (members.take 1 ++ members)).compactChars
  | _ => []

/-- The text has no names, a configuration that passes can be loaded from its value, and the size of
the batch stands in it twice. -/
theorem computed_repeatingChars :
  placeholdersOf repeatingChars = [] ∧ straysOf repeatingChars = []
    ∧ ((Document.ofChars repeatingChars).toValue.toOption.bind fun value =>
        (Config.ofValue value).toOption.map fun c => (validate none c).passed) = some true
    ∧ (match (Document.ofChars repeatingChars).root with
        | .object _ _ members => (named "train_batch_size" members.split.1).length
        | _ => 0) = 2
  := by
  decide +kernel

theorem exists_config_repeatingChars :
  ∃ value c, parse (String.ofList repeatingChars) = .ok value ∧ Config.ofValue value = .ok c
    ∧ (validate none c).passed = true
  := by
  obtain ⟨-, -, passes, -⟩ := computed_repeatingChars
  cases denotes : (Document.ofChars repeatingChars).toValue with
  | error fault => simp [denotes, Except.toOption] at passes
  | ok value =>
    cases loaded : Config.ofValue value with
    | error error => simp [denotes, loaded, Except.toOption] at passes
    | ok c =>
      refine ⟨value, c, ?_, loaded, ?_⟩
      · rw [parse, Document.ofText, String.toList_ofList, denotes]
      · simpa [denotes, loaded, Except.toOption] using passes

theorem not_single_repeatingChars :
  ¬Config.shape.Single (Document.ofText (String.ofList repeatingChars)).root
  := by
  obtain ⟨-, -, -, count⟩ := computed_repeatingChars
  rw [Document.ofText, String.toList_ofList]
  cases root : (Document.ofChars repeatingChars).root with
  | object start entered members =>
    rw [Config.shape, Shape.single_record_iff]
    intro once
    have atMost := (once ("train_batch_size", .plain) List.mem_cons_self).1
    simp only [root] at count
    simp only at atMost
    omega
  | _ => simp [root] at count

/-- A request to copy a configuration that repeats a field succeeds, and what it has written is not
accepted, whichever paths are looked up. -/
theorem revalidate_repeating :
  let copied := (Command.render copyRequest).run false noVariables
    (singleFile (String.ofList repeatingChars))
  copied.result = .ok ()
    ∧ copied.files.read "out.json" = .ok (String.ofList repeatingChars)
    ∧ ∀ check report, (validateFile check "out.json" (copied.files.read "out.json")).result
        ≠ .ok report
  := by
  obtain ⟨noPlaceholders, noStrays, -⟩ := computed_repeatingChars
  obtain ⟨value, c, denotes, loaded, passed⟩ := exists_config_repeatingChars
  have spelled : (String.ofList repeatingChars).toList = repeatingChars := String.toList_ofList
  rw [← spelled] at noPlaceholders noStrays
  have single := not_single_repeatingChars
  -- Beyond these facts nothing depends on the text, so it need not be looked at again.
  generalize String.ofList repeatingChars = text at *
  have made := result_product_copy noPlaceholders noStrays denotes loaded passed
  have succeeds : ((Command.render copyRequest).run false noVariables (singleFile text)).result
      = .ok () := by
    obtain ⟨after, writes⟩ :
        ∃ after, (singleFile text).write "out.json" text copyRequest.force = (.ok (), after) :=
      ⟨_, rfl⟩
    apply Command.result_run_eq_ok_iff.2
    refine ⟨_, (RenderRequest.result_plan_eq_ok_iff rfl).2 ⟨_, made, rfl⟩, ?_⟩
    simp [Plan.carryOut, writes]
  obtain ⟨p, first, made', -, written, again⟩ := revalidate_rendered succeeds rfl rfl rfl
  obtain rfl := Except.ok.inj (made.symm.trans made')
  refine ⟨succeeds, written, ?_⟩
  intro check report accepted
  exact single ((again check).1.1 ⟨report, accepted⟩)

end ConfigTemplate
