import ConfigTemplate.CommandLine.Rendering
import ConfigTemplate.Proofs.Bindings.Pairs
import ConfigTemplate.Proofs.Json.DocumentValue
import ConfigTemplate.Proofs.Log

/-!
# The precedence of sources

A request to render takes values from the environment, from a file and from pairs.  Each source is
read as a whole before any of them counts, and the first source that cannot be read is the one that
is reported.  If all are read, a name has the value of the last pair for it, or else the one in the
file, or else the one in the environment: `bindings_decided`.
-/

namespace ConfigTemplate

open Bindings Json

namespace RenderRequest

section

variable (a : RenderRequest) (s : Surroundings) (t : Template)

/-! ### What a source gives a name -/

/-- The last pair for the name is read as the value. -/
def PairGives (name : String) (v : Scalar) : Prop :=
  ∃ front pair back raw, a.set = front ++ pair :: back ∧ Spells pair name raw
    ∧ readRaw name raw = .ok v ∧ ∀ later ∈ back, ∀ other, ¬Spells later name other

/-- The file holds an object whose member of the name is read as the value. -/
def FileGives (name : String) (v : Scalar) : Prop :=
  ∃ path text members value, a.vars = some path ∧ s.read path = .ok text
    ∧ Json.parse text = .ok (.object members) ∧ (name, value) ∈ members
    ∧ readJson name value = .ok v

/-- The environment is asked for, the name is a placeholder of the template, and the variable of
just this name is read as the value. -/
def EnvironmentGives (name : String) (v : Scalar) : Prop :=
  a.fromEnvironment = true ∧ name ∈ t.placeholders
    ∧ ∃ raw, s.environment name = some raw ∧ readRaw name raw = .ok v

/-- The value that is due to a name: each source counts only if the ones behind it say nothing. -/
inductive Gives (name : String) : Scalar → Prop where
  | pair {v : Scalar} (given : a.PairGives name v) : Gives name v
  | file {v : Scalar} (noPair : ∀ w, ¬a.PairGives name w) (given : a.FileGives s name v) :
    Gives name v
  | environment {v : Scalar} (noPair : ∀ w, ¬a.PairGives name w)
    (noMember : ∀ w, ¬a.FileGives s name w) (given : a.EnvironmentGives s t name v) :
    Gives name v

/-! ### What is wrong with a source -/

/-- The environment is asked for, and the variable of a placeholder is set to an invalid value. -/
def EnvironmentInvalid : Prop :=
  a.fromEnvironment = true ∧ ∃ name ∈ t.placeholders, ∃ raw, s.environment name = some raw
    ∧ (readRaw name raw).isOk = false

/-- The file of values is there to be read, and unless it cannot be read or is no JSON object it has
an invalid member. -/
def FileInvalid : Prop :=
  ∃ path, a.vars = some path ∧ ∀ text members, s.read path = .ok text →
    Json.parse text = .ok (.object members) →
      ∃ member ∈ members, (readJson member.1 member.2).isOk = false

/-- There is a pair that, unless it spells no name, has an invalid value. -/
def PairInvalid : Prop :=
  ∃ pair ∈ a.set, ∀ name raw, Spells pair name raw → (readRaw name raw).isOk = false

/-- What the variables of the placeholders become, if they are asked for. -/
def environmentReadings : List Reading :=
  if a.fromEnvironment then t.placeholders.filterMap (readVariable? s.environment) else []

/-- The refusal of the file at a path: it cannot be read, it is not JSON, it is no object, or a
member is refused, and then it is the first one. -/
inductive FileRefused (path : String) : Error → Prop where
  | unreadable {fault : FileFault} (read : s.read path = .error fault) :
    FileRefused path (.unreadable path fault)
  | noJson {text : String} {fault : Json.Fault} (read : s.read path = .ok text)
    (parsed : Json.parse text = .error fault) : FileRefused path (.json fault)
  | noObject {text : String} {value : Json.Value} (read : s.read path = .ok text)
    (parsed : Json.parse text = .ok value) (other : ∀ members, value ≠ .object members) :
    FileRefused path (.operationFailed "bindings file must contain a JSON object")
  | member {text : String} {members : List (String × Json.Value)} {e : Error}
    (read : s.read path = .ok text) (parsed : Json.parse text = .ok (.object members))
    (refused : FirstRefusal (members.map readMember) e) : FileRefused path e

/-- The error that is due: that of the first source in the order of environment, file and pairs that
is refused. -/
inductive Refused : Error → Prop where
  | environment {e : Error} (refused : FirstRefusal (a.environmentReadings s t) e) :
    Refused (.within "Invalid value in environment" e)
  | file {path : String} {e : Error}
    (environment : ∀ e, ¬FirstRefusal (a.environmentReadings s t) e)
    (vars : a.vars = some path) (refused : FileRefused s path e) :
    Refused (.within ("Invalid vars file " ++ path) e)
  | pairs {e : Error} (environment : ∀ e, ¬FirstRefusal (a.environmentReadings s t) e)
    (file : ∀ path e, a.vars = some path → ¬FileRefused s path e)
    (refused : FirstRefusal (a.set.map readPair) e) : Refused e

end

variable {a : RenderRequest} {s : Surroundings} {t : Template}

/-! ### The environment -/

theorem withContext_eq_error_iff {α : Type} {context : String} {result : Except Error α}
    {e : Error} :
  withContext context result = .error e ↔ ∃ cause, result = .error cause ∧ e = .within context cause
  := by
  cases result with
  | error cause => simp [withContext, Except.mapError, eq_comm]
  | ok value => simp [withContext, Except.mapError]

theorem result_environmentBindings :
  (a.environmentBindings s t).result
    = withContext "Invalid value in environment" (empty.addReadings (a.environmentReadings s t))
  := by
  unfold environmentBindings environmentReadings
  split
  · simp only [Logged.result_bind, Logged.result_withContext, Logged.result_ofExcept,
      Logged.result_debug, Logged.result_pure, ofVariables, addVariables_eq, pure_bind, bind_pure]
  · rfl

/-- A reading of the environment is that of a variable. -/
theorem mem_environmentReadings {reading : Reading} :
  reading ∈ a.environmentReadings s t
    ↔ a.fromEnvironment = true ∧ ∃ name ∈ t.placeholders, ∃ raw, s.environment name = some raw
      ∧ readNamed name raw = reading
  := by
  unfold environmentReadings
  split
  · next asked => simp [asked, List.mem_filterMap, readVariable?]
  · next unasked => simp [unasked]

theorem get?_environmentBindings {b : Bindings} (read : (a.environmentBindings s t).result = .ok b)
    (name : String) (v : Scalar) :
  b.get? name = some v ↔ a.EnvironmentGives s t name v
  := by
  rw [result_environmentBindings, withContext, mapError_eq_ok_iff] at read
  obtain ⟨entries, readings, rfl⟩ := addReadings_eq_ok_iff.1 read
  have mem (w : Scalar) : (name, w) ∈ entries ↔ a.EnvironmentGives s t name w := by
    rw [mem_entries_iff readings, mem_environmentReadings]
    simp only [readNamed_eq_ok_iff]
    constructor
    · rintro ⟨asked, _, used, raw, set, rfl, read⟩
      exact ⟨asked, used, raw, set, read⟩
    · rintro ⟨asked, used, raw, set, read⟩
      exact ⟨asked, name, used, raw, set, rfl, read⟩
  rw [get?_ofEntries_eq_some_iff_mem, mem]
  intro v w first second
  obtain ⟨-, -, raw, set, read⟩ := (mem v).1 first
  obtain ⟨-, -, raw', set', read'⟩ := (mem w).1 second
  obtain rfl := Option.some.inj (set.symm.trans set')
  exact Except.ok.inj (read.symm.trans read')

theorem environment_refused_iff :
  (∃ e, FirstRefusal (a.environmentReadings s t) e) ↔ a.EnvironmentInvalid s t
  := by
  rw [exists_firstRefusal_iff]
  simp only [mem_environmentReadings, EnvironmentInvalid]
  constructor
  · rintro ⟨_, ⟨asked, name, used, raw, set, rfl⟩, refused⟩
    exact ⟨asked, name, used, raw, set, isOk_readNamed name raw ▸ refused⟩
  · rintro ⟨asked, name, used, raw, set, refused⟩
    exact ⟨_, ⟨asked, name, used, raw, set, rfl⟩, (isOk_readNamed name raw).trans refused⟩

/-! ### The pairs -/

theorem result_pairBindings :
  a.pairBindings.result = empty.addReadings (a.set.map readPair)
  := by
  simp only [pairBindings, Logged.result_bind, Logged.result_ofExcept, Logged.result_debug,
    Logged.result_pure, ofPairs, addPairs_eq, pure_bind, bind_pure]

theorem get?_pairBindings {b : Bindings} (read : a.pairBindings.result = .ok b) (name : String)
    (v : Scalar) :
  b.get? name = some v ↔ a.PairGives name v
  := by
  rw [result_pairBindings, ← addPairs_eq] at read
  exact get?_ofPairs read name v

theorem pair_refused_iff :
  (∃ e, FirstRefusal (a.set.map readPair) e) ↔ a.PairInvalid
  := by
  rw [exists_firstRefusal_iff]
  simp only [List.mem_map, exists_exists_and_eq_and, isOk_readPair_eq_false_iff, PairInvalid]

/-! ### The file -/

theorem result_ofFile (path : String) (content : Except FileFault String) :
  (Bindings.ofFile path content).result = content.mapError (Error.unreadable path) >>= ofJsonText
  := by
  simp only [Bindings.ofFile, Logged.result_bind, Logged.result_ofExcept, Logged.result_debug,
    Logged.result_pure, pure_bind, bind_pure]
  rfl

/-- The bindings of a file are those of the object in it. -/
theorem exists_object_of_ofFile {path : String} {content : Except FileFault String} {b : Bindings}
    (read : (Bindings.ofFile path content).result = .ok b) :
  ∃ text members, content = .ok text ∧ parse text = .ok (.object members)
    ∧ empty.addReadings (members.map readMember) = .ok b
  := by
  rw [result_ofFile] at read
  obtain ⟨text, content, read⟩ := bind_eq_ok read
  rw [mapError_eq_ok_iff] at content
  have made := read
  rw [ofJsonText] at made
  split at made
  · contradiction
  · next members parsed =>
    rw [ofJsonText_object parsed] at read
    exact ⟨text, members, content, parsed, read⟩
  · contradiction

/-- The refusal of a file is the one that is due. -/
theorem result_ofFile_eq_error_iff {path : String} {e : Error} :
  (Bindings.ofFile path (s.read path)).result = .error e ↔ FileRefused s path e
  := by
  rw [result_ofFile]
  constructor
  · cases content : s.read path with
    | error fault =>
      rintro ⟨⟩
      exact .unreadable content
    | ok text =>
      intro refused
      change ofJsonText text = .error e at refused
      have made := refused
      rw [ofJsonText] at made
      split at made
      · next fault parsed =>
        obtain rfl := Except.error.inj made
        exact .noJson content parsed
      · next members parsed =>
        rw [ofJsonText_object parsed, addReadings_eq_error_iff] at refused
        exact .member content parsed refused
      · next value other parsed =>
        obtain rfl := Except.error.inj made
        exact .noObject content parsed other
  · intro refused
    cases refused with
    | unreadable content =>
      rw [content]
      rfl
    | noJson content parsed =>
      rw [content]
      change ofJsonText _ = _
      rw [ofJsonText, parsed]
    | noObject content parsed other =>
      rw [content]
      change ofJsonText _ = _
      rw [ofJsonText, parsed]
      split
      · contradiction
      · next members same => exact absurd (Except.ok.inj same) (other members)
      · rfl
    | member content parsed refused =>
      rw [content]
      change ofJsonText _ = _
      rw [ofJsonText_object parsed, addReadings_eq_error_iff]
      exact refused

theorem result_fileBindings {path : String} (vars : a.vars = some path) :
  (a.fileBindings s).result
    = withContext ("Invalid vars file " ++ path) (Bindings.ofFile path (s.read path)).result
  := by
  rw [fileBindings, vars]
  simp only [Logged.result_bind, Logged.result_withContext, Logged.result_debug,
    Logged.result_pure, pure_bind, bind_pure]

/-- The members of an object that is parsed have different names. -/
theorem value_unique {text name : String} {members : List (String × Json.Value)}
    {value other : Json.Value} (parsed : Json.parse text = .ok (.object members))
    (mem : (name, value) ∈ members) (mem' : (name, other) ∈ members) :
  value = other
  := by
  cases canonical_toValue (eq_ok_of_readWith parsed).1 with
  | object order =>
    rw [← order.lookup_eq_some_iff] at mem mem'
    exact Option.some.inj (mem.symm.trans mem')

theorem get?_fileBindings {b : Bindings} (read : (a.fileBindings s).result = .ok b) (name : String)
    (v : Scalar) :
  b.get? name = some v ↔ a.FileGives s name v
  := by
  cases vars : a.vars with
  | none =>
    rw [fileBindings, vars] at read
    obtain rfl := Except.ok.inj read
    constructor
    · intro bound
      contradiction
    · rintro ⟨path, _, _, _, given, -⟩
      rw [vars] at given
      contradiction
  | some path =>
    rw [result_fileBindings vars, withContext, mapError_eq_ok_iff] at read
    obtain ⟨text, members, content, parsed, added⟩ := exists_object_of_ofFile read
    obtain ⟨entries, readings, rfl⟩ := addReadings_eq_ok_iff.1 added
    have mem (w : Scalar) : (name, w) ∈ entries ↔ ∃ value, (name, value) ∈ members
        ∧ readJson name value = .ok w := by
      rw [mem_entries_iff readings, List.mem_map]
      simp only [readMember_eq_ok_iff]
      constructor
      · rintro ⟨⟨_, value⟩, inObject, rfl, read⟩
        exact ⟨value, inObject, read⟩
      · rintro ⟨value, inObject, read⟩
        exact ⟨(name, value), inObject, rfl, read⟩
    rw [get?_ofEntries_eq_some_iff_mem, mem]
    · constructor
      · rintro ⟨value, inObject, read⟩
        exact ⟨path, text, members, value, vars, content, parsed, inObject, read⟩
      · rintro ⟨path', text', members', value, vars', content', parsed', inObject, read⟩
        obtain rfl := Option.some.inj (vars.symm.trans vars')
        obtain rfl := Except.ok.inj (content.symm.trans content')
        obtain ⟨rfl⟩ := Except.ok.inj (parsed.symm.trans parsed')
        exact ⟨value, inObject, read⟩
    · intro v w first second
      obtain ⟨value, inObject, read⟩ := (mem v).1 first
      obtain ⟨value', inObject', read'⟩ := (mem w).1 second
      obtain rfl := value_unique parsed inObject inObject'
      exact Except.ok.inj (read.symm.trans read')

theorem result_fileBindings_eq_error_iff {e : Error} :
  (a.fileBindings s).result = .error e
    ↔ ∃ path cause, a.vars = some path ∧ FileRefused s path cause
      ∧ e = .within ("Invalid vars file " ++ path) cause
  := by
  cases vars : a.vars with
  | none =>
    rw [fileBindings, vars]
    constructor
    · intro refused
      contradiction
    · rintro ⟨_, _, ⟨⟩, -⟩
  | some path =>
    rw [result_fileBindings vars, withContext_eq_error_iff]
    simp only [result_ofFile_eq_error_iff]
    constructor
    · rintro ⟨cause, refused, rfl⟩
      exact ⟨path, cause, rfl, refused, rfl⟩
    · rintro ⟨_, cause, ⟨⟩, refused, rfl⟩
      exact ⟨cause, refused, rfl⟩

theorem file_refused_iff :
  (∃ path e, a.vars = some path ∧ FileRefused s path e) ↔ a.FileInvalid s
  := by
  constructor
  · rintro ⟨path, e, vars, refused⟩
    refine ⟨path, vars, ?_⟩
    intro text members content parsed
    cases refused with
    | unreadable content' =>
      rw [content] at content'
      contradiction
    | noJson content' parsed' =>
      obtain rfl := Except.ok.inj (content.symm.trans content')
      rw [parsed] at parsed'
      contradiction
    | noObject content' parsed' other =>
      obtain rfl := Except.ok.inj (content.symm.trans content')
      exact absurd (Except.ok.inj (parsed'.symm.trans parsed)) (other members)
    | member content' parsed' refused =>
      obtain rfl := Except.ok.inj (content.symm.trans content')
      obtain ⟨rfl⟩ := Except.ok.inj (parsed.symm.trans parsed')
      have invalid := exists_firstRefusal_iff.1 ⟨e, refused⟩
      simpa only [List.mem_map, exists_exists_and_eq_and, isOk_readMember] using invalid
  · rintro ⟨path, vars, invalid⟩
    refine ⟨path, ?_⟩
    cases read : (Bindings.ofFile path (s.read path)).result with
    | error e => exact ⟨e, vars, result_ofFile_eq_error_iff.1 read⟩
    | ok b =>
      obtain ⟨text, members, content, parsed, added⟩ := exists_object_of_ofFile read
      obtain ⟨member, mem, refused⟩ := invalid text members content parsed
      obtain ⟨e, first⟩ := exists_firstRefusal_iff.2
        ⟨_, List.mem_map_of_mem mem, (isOk_readMember member).trans refused⟩
      rw [addReadings_eq_error_iff.2 first] at added
      contradiction

/-! ### All sources together -/

/-- The bindings are there if all sources are, with those of the pairs over those of the file over
those of the environment. -/
theorem result_bindings_eq_ok_iff {b : Bindings} :
  (a.bindings s t).result = .ok b
    ↔ ∃ environment file pairs, (a.environmentBindings s t).result = .ok environment
      ∧ (a.fileBindings s).result = .ok file ∧ a.pairBindings.result = .ok pairs
      ∧ b = (environment.merge file).merge pairs
  := by
  simp only [bindings, Logged.result_bind, Logged.result_pure]
  constructor
  · intro h
    obtain ⟨environment, first, h⟩ := bind_eq_ok h
    obtain ⟨file, second, h⟩ := bind_eq_ok h
    obtain ⟨pairs, third, h⟩ := bind_eq_ok h
    exact ⟨environment, file, pairs, first, second, third, (Except.ok.inj h).symm⟩
  · rintro ⟨environment, file, pairs, first, second, third, rfl⟩
    rw [first, second, third]
    rfl

/-- The bindings are refused with the error of the first source that is. -/
theorem result_bindings_eq_error_iff {e : Error} :
  (a.bindings s t).result = .error e
    ↔ (a.environmentBindings s t).result = .error e
      ∨ (∃ environment, (a.environmentBindings s t).result = .ok environment)
        ∧ ((a.fileBindings s).result = .error e
          ∨ (∃ file, (a.fileBindings s).result = .ok file) ∧ a.pairBindings.result = .error e)
  := by
  simp only [bindings, Logged.result_bind, Logged.result_pure]
  cases (a.environmentBindings s t).result with
  | error => simp [bind, Except.bind]
  | ok environment =>
    cases (a.fileBindings s).result with
    | error => simp [bind, Except.bind]
    | ok file =>
      cases a.pairBindings.result with
      | error => simp [bind, Except.bind]
      | ok pairs => simp [bind, Except.bind, pure, Except.pure]

theorem exists_eq_ok_iff {α : Type} {result : Except Error α} :
  (∃ value, result = .ok value) ↔ ∀ e, result ≠ .error e
  := by
  cases result with
  | error e => simp
  | ok value => simp

/-- The bindings are refused with the error that is due. -/
theorem refused_iff {e : Error} :
  (a.bindings s t).result = .error e ↔ a.Refused s t e
  := by
  rw [result_bindings_eq_error_iff, exists_eq_ok_iff, exists_eq_ok_iff]
  simp only [ne_eq, result_environmentBindings, withContext_eq_error_iff, addReadings_eq_error_iff,
    result_fileBindings_eq_error_iff, result_pairBindings]
  constructor
  · rintro (⟨cause, first, rfl⟩ | ⟨noFirst, ⟨path, cause, vars, second, rfl⟩ | ⟨noSecond, third⟩⟩)
    · exact .environment first
    · exact .file (fun cause first => noFirst _ ⟨cause, first, rfl⟩) vars second
    · exact .pairs (fun cause first => noFirst _ ⟨cause, first, rfl⟩)
        (fun path cause vars second => noSecond _ ⟨path, cause, vars, second, rfl⟩) third
  · intro refused
    cases refused with
    | @environment cause first => exact .inl ⟨cause, first, rfl⟩
    | @file path cause noFirst vars second =>
      refine .inr ⟨?_, .inl ⟨path, cause, vars, second, rfl⟩⟩
      rintro _ ⟨cause', first, -⟩
      exact noFirst cause' first
    | pairs noFirst noSecond third =>
      refine .inr ⟨?_, .inr ⟨?_, third⟩⟩
      · rintro _ ⟨cause, first, -⟩
        exact noFirst cause first
      · rintro _ ⟨path, cause, vars, second, -⟩
        exact noSecond path cause vars second

/-- An error is due exactly if a source is invalid. -/
theorem exists_refused_iff :
  (∃ e, a.Refused s t e) ↔ a.EnvironmentInvalid s t ∨ a.FileInvalid s ∨ a.PairInvalid
  := by
  rw [← environment_refused_iff, ← file_refused_iff, ← pair_refused_iff]
  constructor
  · rintro ⟨e, refused⟩
    cases refused with
    | environment first => exact .inl ⟨_, first⟩
    | file _ vars second => exact .inr (.inl ⟨_, _, vars, second⟩)
    | pairs _ _ third => exact .inr (.inr ⟨_, third⟩)
  · intro invalid
    by_contra notRefused
    rw [not_exists] at notRefused
    have noFirst (e : Error) : ¬FirstRefusal (a.environmentReadings s t) e := fun first =>
      notRefused _ (.environment first)
    have noSecond (path : String) (e : Error) (vars : a.vars = some path) :
        ¬FileRefused s path e := fun second => notRefused _ (.file noFirst vars second)
    have noThird (e : Error) : ¬FirstRefusal (a.set.map readPair) e := fun third =>
      notRefused _ (.pairs noFirst noSecond third)
    rcases invalid with ⟨e, first⟩ | ⟨path, e, vars, second⟩ | ⟨e, third⟩
    · exact noFirst e first
    · exact noSecond path e vars second
    · exact noThird e third

/-- **The precedence of sources.**  If the bindings of a request are there, every name has the value
that is due to it, and no other name has one.  They are refused exactly if one of the sources that
are asked for is invalid, whether or not another source would have overridden the invalid entry, and
the error is that of the first such source. -/
theorem bindings_decided (a : RenderRequest) (s : Surroundings) (t : Template) :
  (∀ b, (a.bindings s t).result = .ok b → ∀ name v, b.get? name = some v ↔ a.Gives s t name v)
    ∧ ((∃ e, (a.bindings s t).result = .error e)
        ↔ a.EnvironmentInvalid s t ∨ a.FileInvalid s ∨ a.PairInvalid)
    ∧ ∀ e, (a.bindings s t).result = .error e ↔ a.Refused s t e
  := by
  refine ⟨?_, ?_, fun e => refused_iff⟩
  · intro b made name v
    obtain ⟨environment, file, pairs, first, second, third, rfl⟩ := result_bindings_eq_ok_iff.1 made
    have merged : ((environment.merge file).merge pairs).get? name
        = (pairs.get? name).or ((file.get? name).or (environment.get? name)) := by
      simp only [get?, merge, Dictionary.get?_merge]
    have none {c : Bindings} {P : Scalar → Prop} (given : ∀ w, c.get? name = some w ↔ P w) :
        c.get? name = none ↔ ∀ w, ¬P w := by
      simp only [← given, Option.eq_none_iff_forall_ne_some]
    have byPair := get?_pairBindings third name
    have byFile := get?_fileBindings second name
    have byEnvironment := get?_environmentBindings first name
    rw [merged, Option.or_eq_some_iff, Option.or_eq_some_iff, none byPair, none byFile, byPair,
      byFile, byEnvironment]
    constructor
    · rintro (given | ⟨noPair, given | ⟨noMember, given⟩⟩)
      · exact .pair given
      · exact .file noPair given
      · exact .environment noPair noMember given
    · intro gives
      cases gives with
      | pair given => exact .inl given
      | file noPair given => exact .inr ⟨noPair, .inl given⟩
      | environment noPair noMember given => exact .inr ⟨noPair, .inr ⟨noMember, given⟩⟩
  · simp only [refused_iff]
    exact exists_refused_iff

/-- A request that takes values from all three sources. -/
def layered : RenderRequest where
  template := none
  vars := some "vars.json"
  set := ["MBSIZE=4", " MBSIZE =8"]
  fromEnvironment := true
  output := none
  outputDirectory := none
  runName := none
  pretty := false
  allowUnknown := false
  noValidate := false
  checkPaths := false
  force := false

/-- Variables and a file that have values for the same names. -/
def layeredSurroundings : Surroundings where
  environment name := (["HOME", "MBSIZE", "GBSIZE", "LTD_MIN", "LTD_MAX"].idxOf? name).map toString
  read _ := .ok "\x7b\"GBSIZE\":256,\"MBSIZE\":16\x7d"
  present _ := true

/-- A pair goes before the file, the file before the environment, and the environment counts for
the placeholders of the template alone. -/
theorem gives_layered :
  let t := Template.ofText "layered" "[GBSIZE,MBSIZE,LTD_MIN]"
  layered.Gives layeredSurroundings t "MBSIZE" (.number (.integer 8 (by decide)))
    ∧ layered.Gives layeredSurroundings t "GBSIZE" (.number (.integer 256 (by decide)))
    ∧ layered.Gives layeredSurroundings t "LTD_MIN" (.number (.integer 3 (by decide)))
    ∧ ∀ v, ¬layered.Gives layeredSurroundings t "LTD_MAX" v
  := by
  intro t
  have made : (layered.bindings layeredSurroundings t).result = .ok ⟨.ofList [
      ("GBSIZE", .number (.integer 256 (by decide))), ("LTD_MIN", .number (.integer 3 (by decide))),
      ("MBSIZE", .number (.integer 8 (by decide)))]⟩ := by
    decide +kernel
  have gives := (bindings_decided layered layeredSurroundings t).1 _ made
  refine ⟨?_, ?_, ?_, ?_⟩
  · rw [← gives]
    decide
  · rw [← gives]
    decide
  · rw [← gives]
    decide
  · intro v
    rw [← gives]
    intro given
    contradiction

end RenderRequest

end ConfigTemplate
