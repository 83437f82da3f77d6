import ConfigTemplate.Proofs.Files.Untouched
import Mathlib.Data.List.Basic

/-!
# Writing as one step

A write ends in one of four ways, `ending_writeWhile`, and each of them says what it leaves behind:
the text is refused before anything is done, it cannot be staged, the staged file cannot be moved,
or it is moved.  So to everyone else a write is one step, `write_atomic`: either the file at the end
of the path has the text, or all files are as they were.  Another process that makes a file at the
path in the meantime keeps it, unless the write may replace it.
-/

namespace ConfigTemplate.FileTree

variable {tree after : FileTree} {source : Location} {path text : String} {replacing : Bool}

/-! ### Paths at whose end something is -/

/-- The last piece of a path is its last component, unless it is a dot. -/
theorem getLast?_components {name : String} (isLast : (Path.pieces path).getLast? = some name)
    (notHere : name ≠ ".") :
  (Path.components path).getLast? = some name
  := by
  obtain ⟨front, pieces⟩ := List.getLast?_eq_some_iff.1 isLast
  rw [Path.components, pieces, List.filter_append]
  simp [notHere]

/-- Where a path leads to something, nothing is moved without leave to replace it. -/
theorem rename_of_find {content : Content} {location : Location} {entry : Entry}
    (found : tree.find path = .ok (location, entry)) :
  tree.rename source content path false = .error .exists
  := by
  obtain ⟨⟨directory, last⟩, leads, found⟩ := Json.bind_eq_ok found
  rw [rename, newPlace, leads]
  cases last with
  | none => rfl
  | some name =>
    obtain ⟨⟨next, there⟩, follows, -⟩ := Json.bind_eq_ok found
    simp only [follow] at follows
    change (((newName (some name)) >>= fun name => pure (directory, name)).mapError _ >>= _) = _
    split_ifs at follows with here above long
    · simp [newName, here, bind, Except.bind, Except.mapError]
    · simp [newName, above, bind, Except.bind, Except.mapError]
    · cases present : tree.entry? (directory ++ [name]) with
      | none => simp [present] at follows
      | some entry =>
        simp [newName, here, above, long, present, bind, Except.bind, pure, Except.pure,
          Except.mapError]

/-- Where a file is moved without leave to replace another one, nothing was at the end of its
path. -/
theorem present_of_rename {content : Content}
    (h : tree.rename source content path false = .ok after) :
  tree.present path = false
  := by
  rw [present]
  cases found : tree.find path with
  | error fault => rfl
  | ok place =>
    rw [rename_of_find found] at h
    contradiction

/-- A path still leads where it led after a file has been taken away that is not at its end. -/
theorem find_remove {content : Content} {location : Location} {entry : Entry}
    (isFile : tree.entry? source = some (.file content))
    (apart : ∀ directory name, (Path.components path).getLast? = some name →
      source ≠ directory ++ [name])
    (found : tree.find path = .ok (location, entry)) :
  (tree.remove source).find path = .ok (location, entry)
  := by
  have within : Within tree (tree.remove source) := by
    refine ⟨rfl, ?_⟩
    intro location isDirectory
    rw [entry_remove]
    grind
  rw [find] at found ⊢
  obtain ⟨⟨directory, last⟩, leads, found⟩ := Json.bind_eq_ok found
  rw [within.parent leads]
  cases last with
  | none => exact found
  | some name =>
    have same : (tree.remove source).follow directory name = tree.follow directory name := by
      by_cases here : name = "."
      · simp [follow, here]
      · have isLast : (Path.pieces path).getLast? = some name := by
          obtain ⟨_, -, leads⟩ := Json.bind_eq_ok leads
          obtain ⟨_, -, place⟩ := Json.bind_eq_ok leads
          exact (Prod.mk.inj (Except.ok.inj place)).2
        have other := apart directory name (getLast?_components isLast here)
        simp [follow, entry_remove, other.symm]
    change (tree.remove source).follow directory name >>= _ = _
    rw [same]
    exact found

/-! ### The ways in which a write ends -/

variable {interference : FileTree → FileTree}

/-- The ways in which a write ends, each with what becomes of the tree.  Another process may change
the tree between the two steps. -/
inductive Ending (interference : FileTree → FileTree) (tree : FileTree) (path text : String)
    (replacing : Bool) : Except Error Unit × FileTree → Prop
  | refused (taken : tree.present path = true) (keeps : replacing = false) :
    Ending interference tree path text replacing (.error (.outputExists path), tree)
  | unstaged (fault : FileFault) (after : FileTree) (opens : Opened (IsAbove path) tree after) :
    Ending interference tree path text replacing (.error (.file fault), after)
  | undone (error : Error) (source : Location) (staged : FileTree)
    (stages : tree.stage path text = (.ok source, staged)) :
    Ending interference tree path text replacing (.error error, (interference staged).remove source)
  | moved (source : Location) (staged after : FileTree)
    (free : replacing = false → tree.present path = false)
    (stages : tree.stage path text = (.ok source, staged))
    (moves : (interference staged).rename source (.text text) path replacing = .ok after) :
    Ending interference tree path text replacing (.ok (), after)

/-- A write ends in one of these ways. -/
theorem ending_writeWhile (interference : FileTree → FileTree) (tree : FileTree)
    (path text : String) (replacing : Bool) :
  Ending interference tree path text replacing (tree.writeWhile interference path text replacing)
  := by
  unfold writeWhile
  split
  · next taken =>
    obtain ⟨isThere, keeps⟩ := Bool.and_eq_true_iff.1 taken
    exact .refused isThere (by simpa using keeps)
  · next free =>
    split
    · next fault after stages => exact .unstaged fault after (opened_of_stage_error stages)
    · next source staged stages =>
      unfold persist
      split
      · next after moves =>
        refine .moved source staged after ?_ stages moves
        rintro rfl
        simpa using free
      · exact .undone _ source staged stages
      · exact .undone _ source staged stages

/-! ### A write without interference -/

/-- The file at a location is all that is new, apart from directories above the path that leads to
it. -/
structure Delivered (tree after : FileTree) (path text : String) (location : Location) : Prop where
  found : after.find path = .ok (location, .file (.text text))
  entry (other : Location) (apart : other ≠ location) :
    after.entry? other = tree.entry? other
      ∨ tree.entry? other = none ∧ after.entry? other = some .directory
  leads (other : Location) (apart : other ≠ location)
    (new : after.entry? other ≠ tree.entry? other) :
    ∃ above, IsAbove path above ∧ after.find above = .ok (other, .directory)

/-- A write that succeeds changes one file, that at the end of the path. -/
theorem exists_delivered_of_write (h : tree.write path text replacing = (.ok (), after)) :
  ∃ location, Delivered tree after path text location
  := by
  have ending := ending_writeWhile id tree path text replacing
  rw [← write, h] at ending
  obtain ⟨-, -, -, -⟩ | ⟨-, -, -⟩ | ⟨-, -, -, -⟩ | ⟨source, staged, _, -, stages, moves⟩ := ending
  obtain ⟨opened, opens, free, rfl, -⟩ := exists_opened_of_stage stages
  have isFile : entry? (opened.put source (.file (.text text))) source ≠ some .directory := by
    simp [entry_of_stage stages]
  obtain ⟨location, found, notDirectory, rfl⟩ := find_rename isFile moves
  rw [entry_put] at notDirectory
  have untouched (other : Location) (apart : other ≠ location) :
      entry? (((opened.put source (.file (.text text))).remove source).put location
        (.file (.text text))) other = opened.entry? other := by
    rw [entry_put, entry_remove, entry_put]
    grind [FileTree.entry?]
  -- No directory was at either place, so the paths above still lead to what was opened.
  have within : Within opened (((opened.put source (.file (.text text))).remove source).put location
      (.file (.text text))) := by
    refine ⟨rfl, ?_⟩
    intro other isDirectory
    by_cases apart : other = location
    · subst apart
      grind [FileTree.entry?]
    · rw [untouched other apart, isDirectory]
  refine ⟨location, found, ?_, ?_⟩
  · intro other apart
    rw [untouched other apart]
    exact opens.entry other
  · intro other apart new
    rw [untouched other apart] at new
    obtain ⟨above, isAbove, leads⟩ := opens.leads new
    exact ⟨above, isAbove, within.find leads⟩

/-- A write that succeeds leaves nothing else behind than the file at the end of the path. -/
theorem written_of_write (h : tree.write path text replacing = (.ok (), after)) :
  Written tree after path text
  := by
  obtain ⟨location, delivered⟩ := exists_delivered_of_write h
  exact ⟨location, delivered.found, delivered.entry⟩

/-- A write that fails leaves nothing but directories above the path. -/
theorem opened_of_write {error : Error}
    (h : tree.write path text replacing = (.error error, after)) :
  Opened (IsAbove path) tree after
  := by
  have ending := ending_writeWhile id tree path text replacing
  rw [← write, h] at ending
  cases ending with
  | refused => exact .refl _ tree
  | unstaged fault _ opens => exact opens
  | undone _ source staged stages =>
    obtain ⟨opened, opens, free, rfl, -⟩ := exists_opened_of_stage stages
    refine opens.congr ?_ ?_
    · rfl
    · intro location
      rw [id, entry_remove, entry_put]
      grind [FileTree.entry?]

/-- A write that fails leaves nothing but directories. -/
theorem grown_of_write {error : Error} (h : tree.write path text replacing = (.error error, after)) :
  Grown tree after
  := (opened_of_write h).toGrown

/-! ### A write beside another process -/

/-- The staged file is moved over what the other process has left, and nothing else is touched. -/
theorem exists_find_of_moved {during : FileTree}
    (isFile : during.entry? source = some (.file (.text text)))
    (moves : during.rename source (.text text) path replacing = .ok after) :
  ∃ location, after.find path = .ok (location, .file (.text text))
    ∧ ∀ other ≠ location, after.entry? other = entry? (during.remove source) other
  := by
  obtain ⟨location, found, -, rfl⟩ := find_rename (by simp [isFile]) moves
  refine ⟨location, found, ?_⟩
  intro other apart
  rw [entry_put, if_neg apart]
  grind [FileTree.entry?]

/-- What another process makes at the path after the first look is kept. -/
theorem writeWhile_of_overtaken {staged : FileTree} {location : Location} {entry : Entry}
    (free : tree.present path = false) (stages : tree.stage path text = (.ok source, staged))
    (spares : entry? (interference staged) source = staged.entry? source)
    (made : (interference staged).find path = .ok (location, entry)) :
  tree.writeWhile interference path text false
      = (.error (.outputExists path), (interference staged).remove source)
    ∧ ((interference staged).remove source).find path = .ok (location, entry)
  := by
  obtain ⟨-, -, -, -, apart⟩ := exists_opened_of_stage stages
  constructor
  · simp [writeWhile, free, stages, persist, rename_of_find made]
  · apply find_remove _ apart made
    · exact .text text
    · rw [spares, entry_of_stage stages]

end ConfigTemplate.FileTree
