import ConfigTemplate.Files.Output
import ConfigTemplate.Proofs.Dictionary
import ConfigTemplate.Proofs.Json.NumeralText

/-!
# Reading what was written

A text that was written to a path is read from that path.  The text is moved from its staged file to
the end of the path, which takes no directory away, so the path leads through the same directories
as before.
-/

namespace ConfigTemplate.FileTree

/-! ### The entries of a changed tree -/

theorem entry_put (tree : FileTree) (changed : Location) (entry : Entry) (location : Location) :
  entry? (tree.put changed entry) location
    = if location = [] then some .directory
      else if location = changed then some entry
      else tree.entry? location
  := by
  simp only [ entry?, put, lookup_cons_eq, lookup_filter (· != changed), List.isEmpty_iff]
  grind

theorem entry_remove (tree : FileTree) (changed location : Location) :
  entry? (tree.remove changed) location
    = if location = [] then some .directory
      else if location = changed then none
      else tree.entry? location
  := by
  simp only [ entry?, remove, lookup_filter (· != changed), List.isEmpty_iff]
  grind

/-! ### Paths through the same directories -/

/-- The directories of a tree are directories of the other one. -/
structure Within (tree after : FileTree) : Prop where
  workingDirectory : after.workingDirectory = tree.workingDirectory
  directory {location : Location} (h : tree.entry? location = some .directory) :
    after.entry? location = some .directory

namespace Within

variable {tree after : FileTree} (within : Within tree after)

include within

theorem follow {directory next : Location} {piece : String}
    (h : tree.follow directory piece = .ok (next, .directory)) :
  after.follow directory piece = .ok (next, .directory)
  := by
  unfold FileTree.follow at h ⊢
  split_ifs at h ⊢ with here above long
  · exact h
  · exact h
  · cases found : tree.entry? (directory ++ [piece]) with
    | none => simp [found] at h
    | some entry =>
      obtain ⟨rfl, rfl⟩ : directory ++ [piece] = next ∧ entry = .directory := by
        simpa [found] using h
      rw [within.directory found]

theorem walk {directory location : Location} {pieces : List String}
    (h : tree.walk directory pieces = .ok location) :
  after.walk directory pieces = .ok location
  := by
  induction pieces generalizing directory with
  | nil => exact h
  | cons piece rest ih =>
    rw [FileTree.walk] at h ⊢
    obtain ⟨⟨next, entry⟩, first, others⟩ := Json.bind_eq_ok h
    cases entry with
    | file content => simp at others
    | directory =>
      rw [within.follow first]
      exact ih others

theorem parent {path : String} {location : Location} {last : Option String}
    (h : tree.parent path = .ok (location, last)) :
  after.parent path = .ok (location, last)
  := by
  unfold FileTree.parent at h ⊢
  obtain ⟨_, checked, h⟩ := Json.bind_eq_ok h
  obtain ⟨directory, walked, h⟩ := Json.bind_eq_ok h
  rw [checked, within.workingDirectory]
  change after.walk _ _ >>= _ = _
  rw [within.walk walked]
  exact h

/-- A path to a directory leads there still. -/
theorem find {path : String} {location : Location}
    (h : tree.find path = .ok (location, .directory)) :
  after.find path = .ok (location, .directory)
  := by
  unfold FileTree.find at h ⊢
  obtain ⟨⟨directory, last⟩, leads, h⟩ := Json.bind_eq_ok h
  rw [within.parent leads]
  cases last with
  | none => exact h
  | some last =>
    obtain ⟨⟨next, entry⟩, follows, h⟩ := Json.bind_eq_ok h
    cases entry with
    | directory =>
      change after.follow directory last >>= _ = _
      rw [within.follow follows]
      exact h
    | file content =>
      dsimp only at h
      split at h
      · simp at h
      · simp at h

end Within

/-! ### Moving and writing -/

section

variable {tree after : FileTree} {source : Location} {path text : String} {replacing : Bool}

/-- A name that a new entry can have is followed to what is there. -/
theorem follow_of_newName {directory : Location} {last : Option String} {name : String}
    {entry : Entry} (isNew : newName last = .ok name)
    (found : tree.entry? (directory ++ [name]) = some entry) :
  last = some name ∧ tree.follow directory name = .ok (directory ++ [name], entry)
  := by
  cases last with
  | none => simp [newName] at isNew
  | some given =>
    simp only [newName] at isNew
    split_ifs at isNew with special long
    obtain rfl := Except.ok.inj isNew
    obtain ⟨here, above⟩ : given ≠ "." ∧ given ≠ ".." := by simpa using special
    refine ⟨rfl, ?_⟩
    simp [follow, here, above, long, found]

/-- Where a file is moved to a path, the path does not end in a slash, it leads to a new name in a
directory, and no other directory is taken away. -/
theorem exists_place_of_rename {content : Content}
    (h : tree.rename source content path replacing = .ok after) :
  ∃ directory last name, tree.parent path = .ok (directory, last) ∧ newName last = .ok name
    ∧ Path.endsInSlash path = false ∧ tree.entry? (directory ++ [name]) ≠ some .directory
    ∧ after = (tree.remove source).put (directory ++ [name]) (.file content)
  := by
  obtain ⟨⟨directory, name⟩, place, h⟩ := Json.bind_eq_ok h
  obtain ⟨⟨parent, last⟩, leads, place⟩ := Json.bind_eq_ok (Json.mapError_eq_ok_iff.1 place)
  obtain ⟨given, isNew, place⟩ := Json.bind_eq_ok place
  obtain ⟨rfl, rfl⟩ : parent = directory ∧ given = name := by simpa [pure, Except.pure] using place
  refine ⟨parent, last, given, leads, isNew, ?_⟩
  dsimp only at h
  cases found : tree.entry? (parent ++ [given]) with
  | none =>
    rw [found] at h
    dsimp only at h
    split_ifs at h with slash
    exact ⟨by simpa using slash, by simp, (Except.ok.inj h).symm⟩
  | some entry =>
    rw [found] at h
    dsimp only at h
    split_ifs at h with kept slash isDirectory
    exact ⟨by simpa using slash, by simpa using isDirectory, (Except.ok.inj h).symm⟩

/-- A path to which a file is moved leads to the file. -/
theorem find_rename {content : Content} (isFile : tree.entry? source ≠ some .directory)
    (h : tree.rename source content path replacing = .ok after) :
  ∃ location, after.find path = .ok (location, .file content)
    ∧ tree.entry? location ≠ some .directory
    ∧ after = (tree.remove source).put location (.file content)
  := by
  obtain ⟨directory, last, name, place, isNew, ending, free, result⟩ := exists_place_of_rename h
  -- The source is no directory and the target was none, so all directories are still there.
  have within : Within tree after := by
    refine ⟨by rw [result]; rfl, ?_⟩
    intro location isDirectory
    rw [result, entry_put, entry_remove]
    grind
  have moved : after.entry? (directory ++ [name]) = some (.file content) := by
    simp [result, entry_put]
  obtain ⟨rfl, follows⟩ := follow_of_newName isNew moved
  refine ⟨directory ++ [name], ?_, free, result⟩
  rw [find, within.parent place]
  change after.follow directory name >>= _ = _
  rw [follows]
  simp [bind, Except.bind, ending]

/-- A text that is moved to a path is read from it. -/
theorem read_rename (isFile : tree.entry? source ≠ some .directory)
    (h : tree.rename source (.text text) path replacing = .ok after) :
  after.read path = .ok text
  := by
  obtain ⟨location, found, -, -⟩ := find_rename isFile h
  rw [read, found]

/-- The staged file holds the text. -/
theorem entry_of_stage (h : tree.stage path text = (.ok source, after)) :
  after.entry? source = some (.file (.text text))
  := by
  unfold stage at h
  dsimp only at h
  split at h
  · simp at h
  · split at h
    · simp at h
    · next location walked =>
      obtain ⟨place, rfl⟩ := Prod.mk.inj h
      obtain rfl := Except.ok.inj place
      simp [entry_put, stagingLocation]

/-- A text that was written to a path is read from it. -/
theorem read_write (h : tree.write path text replacing = (.ok (), after)) :
  after.read path = .ok text
  := by
  unfold write writeWhile at h
  split at h
  · simp at h
  · split at h
    · simp at h
    · next staged tree' stages =>
      unfold persist at h
      split at h
      · next moved renames =>
        obtain rfl := (Prod.mk.inj h).2
        exact read_rename (by simp [entry_of_stage stages]) renames
      · simp at h
      · simp at h

end

end ConfigTemplate.FileTree
