import ConfigTemplate.Proofs.Json.PrettyText
import ConfigTemplate.Proofs.Json.Thorough
import ConfigTemplate.Proofs.Json.Unrepeated
import ConfigTemplate.Proofs.Training.Shapes

/-!
# Configurations in a text and in its value

There are two ways to a configuration: a text is read as one, member by member, or a value is loaded
as one, after the members of its objects have been sorted and all but the last of each name are
gone.  The main fact `Config.ofText_agrees` says that the two agree, unless the text repeats a field
of a record or the name of a metric.
-/

namespace ConfigTemplate.Training

open Json Json.Codec

/-! ### The codecs of the records -/

instance ZeroOptimization.thorough_codec : ZeroOptimization.codec.Thorough :=
  thorough_record

instance Fp16.thorough_codec : Fp16.codec.Thorough :=
  thorough_record

instance LinearSchedule.thorough_codec : LinearSchedule.codec.Thorough :=
  thorough_record

instance TokenSchedule.thorough_codec : TokenSchedule.codec.Thorough :=
  thorough_record

instance RandomLtd.thorough_codec : RandomLtd.codec.Thorough :=
  thorough_record

instance DataRouting.thorough_codec : DataRouting.codec.Thorough :=
  thorough_record

instance RootSchedule.thorough_codec : RootSchedule.codec.Thorough :=
  thorough_record

instance Metric.thorough_codec : Metric.codec.Thorough :=
  thorough_record

instance CurriculumLearning.thorough_codec : CurriculumLearning.codec.Thorough :=
  thorough_record

instance DataSampling.thorough_codec : DataSampling.codec.Thorough :=
  thorough_record

instance DataEfficiency.thorough_codec : DataEfficiency.codec.Thorough :=
  thorough_record

instance Config.thorough_codec : Config.codec.Thorough :=
  thorough_record

namespace Config

variable {text : String} {value : Value} {c : Config}

/-! ### From the text to the value and back -/

/-- A text that is read as a configuration has a value from which the configuration is loaded. -/
theorem exists_value_of_ofText (read : ofText text = .ok c) :
  ∃ value, parse text = .ok value ∧ ofValue value = .ok c
  := by
  have document : (Document.ofText text).readWith codec.read = .ok c :=
    mapError_eq_ok_iff.1 read
  obtain ⟨root, final⟩ := eq_ok_of_readWith document
  obtain ⟨value, denotes⟩ := thorough_codec.exists_value root
  have parsed : parse text = .ok value := by
    rw [parse, Document.toValue, Document.readWith, denotes, final]
  exact ⟨value, parsed, ((ofDocument_eq_ok_iff parsed).1 read).2⟩

/-- A text that repeats no field is read as the configuration that is loaded from its value. -/
theorem ofText_of_unrepeated (parsed : parse text = .ok value) (loaded : ofValue value = .ok c)
    (unrepeated : shape.Unrepeated (Document.ofText text).root) :
  ofText text = .ok c
  := by
  have reads : codec.read (Node.ofValue value) = .ok c := ofValue_eq_ok_iff.1 loaded
  have inValue := ((faithful_codec.read_iff (toValue_ofValue value)).1 reads).1
  have inText := shape.single_of_unrepeated unrepeated (eq_ok_of_readWith parsed).1 inValue
  exact (ofDocument_eq_ok_iff parsed).2 ⟨inText, loaded⟩

/-- **Agreement.**  What is read from a text is loaded from its value.  What is loaded from the
value of a text is read from the text if no record in the text repeats a field and no metric is
named twice.  Whatever else is repeated, the configuration has the last member of each name. -/
theorem ofText_agrees (text : String) :
  (∀ c, ofText text = .ok c → ∃ value, parse text = .ok value ∧ ofValue value = .ok c)
    ∧ ∀ value c, parse text = .ok value → ofValue value = .ok c →
        (shape.Unrepeated (Document.ofText text).root → ofText text = .ok c)
          ∧ ∀ path, ((Document.ofText text).root.last? path).map Node.toValue
              = (c.toValue.at? path).map .ok
  := by
  refine ⟨fun c => exists_value_of_ofText, ?_⟩
  intro value c parsed loaded
  refine ⟨ofText_of_unrepeated parsed loaded, ?_⟩
  intro path
  have denotes := (eq_ok_of_readWith parsed).1
  have same : c.toValue = value := by
    rw [toValue, written, lawful_codec.write_sorted (ofValue_eq_ok_iff.1 loaded),
      (canonical_toValue denotes).sorted_eq]
  rw [same, map_toValue_last? denotes]

/-- A configuration with an unknown member that is given twice. -/
def amendedChars : List Char :=
  match annotatedValue with
  | .object members => (Value.object (("gradient_clipping", .boolean true) :: members)).compactChars
  | _ => []

/-- A configuration without floating point numbers can be loaded from the value of the text, the
text repeats no field, and the last of the two members is null. -/
theorem computed_amendedChars :
  (match (Document.ofChars amendedChars).toValue.toOption.map ofValue with
      | some (.ok c) => decide c.written.Integral
      | _ => false) = true
    ∧ shape.Unrepeated (Document.ofChars amendedChars).root
    ∧ (match ((Document.ofChars amendedChars).root.last? ["gradient_clipping"]).map Node.toValue with
        | some (.ok .null) => true
        | _ => false) = true
  := by
  decide +kernel

/-- The text of the configuration, which no proof has to look into. -/
@[irreducible]
def amendedText : String := String.ofList amendedChars

theorem exists_config_amendedText :
  ∃ value c, parse amendedText = .ok value ∧ ofValue value = .ok c ∧ c.written.Integral
    ∧ shape.Unrepeated (Document.ofText amendedText).root
    ∧ ((Document.ofText amendedText).root.last? ["gradient_clipping"]).map Node.toValue
      = some (.ok .null)
  := by
  obtain ⟨loads, unrepeated, last⟩ := computed_amendedChars
  have spelled : amendedText.toList = amendedChars := by
    unfold amendedText
    exact String.toList_ofList
  rw [← spelled] at loads unrepeated last
  -- Beyond these facts nothing depends on the text, so it need not be looked at again.
  generalize amendedText = text at loads unrepeated last ⊢
  rw [← Document.ofText] at loads unrepeated last
  split at loads
  · next c both =>
    split at last
    · next isNull =>
      cases parsed : (Document.ofText text).toValue with
      | error fault =>
        rw [parsed] at both
        contradiction
      | ok value =>
        rw [parsed] at both
        exact ⟨value, c, parsed, Option.some.inj both, of_decide_eq_true loads, unrepeated, isNull⟩
    · contradiction
  · contradiction

/-- The text is read as a configuration that keeps the second of the two members. -/
theorem ofText_amended :
  ∃ c, ofText amendedText = .ok c ∧ c.toValue.at? ["gradient_clipping"] = some .null
  := by
  obtain ⟨value, c, parsed, loaded, -, unrepeated, last⟩ := exists_config_amendedText
  obtain ⟨read, kept⟩ := (ofText_agrees amendedText).2 value c parsed loaded
  refine ⟨c, read unrepeated, ?_⟩
  have found := kept ["gradient_clipping"]
  rw [last] at found
  obtain ⟨v, isLast, same⟩ := Option.map_eq_some_iff.1 found.symm
  rw [isLast, Except.ok.inj same]

end Config

end ConfigTemplate.Training
