import ConfigTemplate.Proofs.Files.ReadBack
import Mathlib.Data.List.Nodup
import Mathlib.Data.List.Perm.Subperm

/-!
# What writing leaves alone

A text is staged at a location where nothing is, and the staged file is moved away or taken away
again.  So a write that fails leaves all files as they were and adds nothing but directories,
`grown_of_write`, and a write that succeeds changes the file at the end of its path and no other
one, `written_of_write`.  The new directories are those above the path.
-/

namespace ConfigTemplate.FileTree

/-- The second tree has what the first one has, and nothing more than new directories. -/
structure Grown (tree after : FileTree) : Prop where
  workingDirectory : after.workingDirectory = tree.workingDirectory
  entry (location : Location) : after.entry? location = tree.entry? location
    ∨ tree.entry? location = none ∧ after.entry? location = some .directory

/-- The path leads to a file with the text, and elsewhere there is nothing new but directories. -/
def Written (tree after : FileTree) (path text : String) : Prop :=
  ∃ location, after.find path = .ok (location, .file (.text text))
    ∧ ∀ other ≠ location, after.entry? other = tree.entry? other
      ∨ tree.entry? other = none ∧ after.entry? other = some .directory

namespace Grown

theorem refl (tree : FileTree) :
  Grown tree tree
  := ⟨rfl, fun _ => .inl rfl⟩

theorem trans {tree mid after : FileTree} (first : Grown tree mid) (second : Grown mid after) :
  Grown tree after
  := by
  refine ⟨second.workingDirectory.trans first.workingDirectory, ?_⟩
  intro location
  have := first.entry location
  have := second.entry location
  grind

theorem put {tree : FileTree} {location : Location} (free : tree.entry? location = none) :
  Grown tree (tree.put location .directory)
  := by
  refine ⟨rfl, ?_⟩
  intro other
  rw [entry_put]
  grind [FileTree.entry?]

theorem within {tree after : FileTree} (h : Grown tree after) :
  Within tree after
  := by
  refine ⟨h.workingDirectory, ?_⟩
  intro location isDirectory
  have := h.entry location
  grind

end Grown

/-! ### New directories -/

/-- The second tree has grown by directories to which paths of the given kind lead. -/
structure Opened (lead : String → Prop) (tree after : FileTree) : Prop
    extends Grown tree after where
  leads {location : Location} (new : after.entry? location ≠ tree.entry? location) :
    ∃ path, lead path ∧ after.find path = .ok (location, .directory)

namespace Opened

variable {lead : String → Prop} {tree mid after : FileTree}

theorem refl (lead : String → Prop) (tree : FileTree) :
  Opened lead tree tree
  := ⟨.refl tree, fun new => absurd rfl new⟩

theorem trans (first : Opened lead tree mid) (second : Opened lead mid after) :
  Opened lead tree after
  := by
  refine ⟨first.toGrown.trans second.toGrown, ?_⟩
  intro location new
  by_cases later : after.entry? location = mid.entry? location
  · rw [later] at new
    obtain ⟨path, isLead, found⟩ := first.leads new
    exact ⟨path, isLead, second.within.find found⟩
  · exact second.leads later

theorem imp {other : String → Prop} (h : Opened lead tree after)
    (wider : ∀ path, lead path → other path) :
  Opened other tree after
  := by
  refine ⟨h.toGrown, ?_⟩
  intro location new
  obtain ⟨path, isLead, found⟩ := h.leads new
  exact ⟨path, wider path isLead, found⟩

/-- It does not matter how the entries are kept. -/
theorem congr {other : FileTree} (h : Opened lead tree after)
    (workingDirectory : other.workingDirectory = after.workingDirectory)
    (same : ∀ location, other.entry? location = after.entry? location) :
  Opened lead tree other
  := by
  have within : Within after other :=
    ⟨workingDirectory, fun isDirectory => (same _).trans isDirectory⟩
  refine ⟨⟨workingDirectory.trans h.workingDirectory, ?_⟩, ?_⟩
  · intro location
    rw [same]
    exact h.entry location
  · intro location new
    rw [same] at new
    obtain ⟨path, isLead, found⟩ := h.leads new
    exact ⟨path, isLead, within.find found⟩

end Opened

/-! ### Making directories -/

/-- A directory that is made is the one to which its path leads. -/
theorem opened_of_createDirectory {tree after : FileTree} {path : String}
    (h : tree.createDirectory path = .ok after) :
  Opened (· = path) tree after
  := by
  obtain ⟨⟨directory, name⟩, place, h⟩ := Json.bind_eq_ok h
  obtain ⟨⟨parent, last⟩, leads, place⟩ := Json.bind_eq_ok place
  obtain ⟨given, isNew, place⟩ := Json.bind_eq_ok place
  obtain ⟨rfl, rfl⟩ : parent = directory ∧ given = name := by simpa [pure, Except.pure] using place
  dsimp only at h
  cases found : tree.entry? (parent ++ [given]) with
  | some entry => simp [found] at h
  | none =>
    obtain rfl : tree.put (parent ++ [given]) .directory = after := by simpa [found] using h
    have grows : Grown tree (tree.put (parent ++ [given]) .directory) := .put found
    have made : entry? (tree.put (parent ++ [given]) .directory) (parent ++ [given])
        = some .directory := by
      simp [entry_put]
    obtain ⟨rfl, follows⟩ := follow_of_newName isNew made
    refine ⟨grows, ?_⟩
    intro location new
    obtain rfl : location = parent ++ [given] := by
      rw [entry_put] at new
      grind [FileTree.entry?]
    refine ⟨path, rfl, ?_⟩
    rw [find, grows.within.parent leads]
    change follow _ parent given >>= _ = _
    rw [follows]
    rfl

/-- The path of the first of some components. -/
def Beginning (absolute : Bool) (components : List String) (path : String) : Prop :=
  ∃ front, front <+: components ∧ path = pathOf absolute front

/-- Whether or not the directories can be made, nothing else has changed, and a new one is where
a beginning of the path leads. -/
theorem opened_createDirectories (absolute : Bool) (tree : FileTree) (reversed : List String) :
  Opened (Beginning absolute reversed.reverse) tree (createDirectories absolute tree reversed).2
  := by
  induction reversed with
  | nil => exact .refl _ tree
  | cons last above ih =>
    rw [createDirectories]
    have whole : Beginning absolute (last :: above).reverse
        (pathOf absolute (last :: above).reverse) := ⟨_, List.prefix_rfl, rfl⟩
    have shorter (path : String) (h : Beginning absolute above.reverse path) :
        Beginning absolute (last :: above).reverse path := by
      obtain ⟨front, isFront, same⟩ := h
      rw [List.reverse_cons]
      exact ⟨front, isFront.trans (List.prefix_append _ _), same⟩
    generalize pathOf absolute (last :: above).reverse = path at whole
    have made {tree after : FileTree} (h : tree.createDirectory path = .ok after) :
        Opened (Beginning absolute (last :: above).reverse) tree after := by
      apply (opened_of_createDirectory h).imp
      rintro _ rfl
      exact whole
    rcases first : tree.createDirectory path with (fault | after)
    case ok => exact made first
    cases fault with
    | notFound =>
      rcases onWay : createDirectories absolute tree above with ⟨_ | _, grown⟩
      · simpa [onWay] using ih.imp shorter
      · have opens : Opened (Beginning absolute (last :: above).reverse) tree grown := by
          simpa [onWay] using ih.imp shorter
        rcases again : grown.createDirectory path with (fault | after)
        · simp only [again]
          split <;> exact opens
        · simpa only [again] using opens.trans (made again)
    | _ =>
      dsimp only
      split <;> exact .refl _ tree

/-! ### Staging -/

theorem stagingName_injective :
  Function.Injective stagingName
  := by
  intro m n same
  have digits : Nat.toDigits 10 m = Nat.toDigits 10 n := by
    simpa [stagingName] using congrArg String.toList same
  rw [← @Nat.ofDigitChars_ten_toDigits m, digits, Nat.ofDigitChars_ten_toDigits]

/-- Of more locations than there are entries one is free, also if one is reserved. -/
theorem exists_free (tree : FileTree) (reserved : Option Location) {candidate : Nat → Location}
    (injective : Function.Injective candidate) (below : ∀ n, candidate n ≠ []) :
  ∃ n < tree.entries.length + 2, tree.entry? (candidate n) = none ∧ reserved ≠ some (candidate n)
  := by
  by_contra taken
  simp only [not_exists, not_and] at taken
  have once : ((List.range (tree.entries.length + 2)).map candidate).Nodup :=
    List.nodup_range.map injective
  have present : (List.range (tree.entries.length + 2)).map candidate
      ⊆ reserved.toList ++ tree.entries.map Prod.fst := by
    intro location mem
    obtain ⟨n, few, rfl⟩ := List.mem_map.1 mem
    rw [List.mem_append]
    by_cases free : tree.entry? (candidate n) = none
    · left
      simpa using taken n (List.mem_range.1 few) free
    · right
      have there : (tree.entries.lookup (candidate n)).isSome = true := by
        simpa [ entry?, below, Option.isSome_iff_ne_none] using free
      obtain ⟨entry, mem, same⟩ := List.lookup_isSome_iff.1 there
      exact List.mem_map.2 ⟨entry, mem, (beq_iff_eq.1 same).symm⟩
  have few := (List.subperm_of_subset once present).length_le
  have one : reserved.toList.length ≤ 1 := by cases reserved <;> simp
  simp only [List.length_map, List.length_range, List.length_append] at few
  omega

/-- There is nothing at the location of a text on its way, and the file that the text is for will
not be there either. -/
theorem stagingLocation_free (tree : FileTree) (directory : Location) (target : Option String) :
  tree.entry? (tree.stagingLocation directory target) = none
    ∧ ∀ name, target = some name → tree.stagingLocation directory target ≠ directory ++ [name]
  := by
  have injective : Function.Injective fun n => directory ++ [stagingName n] := by
    intro m n same
    exact stagingName_injective (by simpa using same)
  obtain ⟨n, few, free, unreserved⟩ :=
    tree.exists_free (target.map (directory ++ [·])) injective (by simp)
  have fits : ((tree.entry? (directory ++ [stagingName n])).isNone
      && target != some (stagingName n)) = true := by
    simpa [free] using unreserved
  rw [stagingLocation]
  generalize chosen : (List.range (tree.entries.length + 2)).find? (fun n =>
    (tree.entry? (directory ++ [stagingName n])).isNone && target != some (stagingName n)) = choice
  cases choice with
  | none => exact absurd fits (List.find?_eq_none.1 chosen n (List.mem_range.2 few))
  | some m =>
    have suits := List.find?_some chosen
    obtain ⟨isFree, other⟩ := Bool.and_eq_true_iff.1 suits
    refine ⟨by simpa using isFree, ?_⟩
    rintro name rfl same
    simp_all

section

variable {tree after : FileTree} {path text : String} {replacing : Bool}

/-- The paths of the directories above the end of a path. -/
def IsAbove (path : String) : String → Prop :=
  Beginning (Path.isAbsolute path) (Path.components path).dropLast

/-- The directories that are made for a staged file are those above its path. -/
theorem opened_above (tree : FileTree) (path : String) :
  Opened (IsAbove path) tree (createDirectories (Path.isAbsolute path) tree
    (Path.components path).dropLast.reverse).2
  := by
  have opens := opened_createDirectories (Path.isAbsolute path) tree
    (Path.components path).dropLast.reverse
  rwa [List.reverse_reverse] at opens

/-- A text that cannot be staged leaves nothing but directories. -/
theorem opened_of_stage_error {fault : FileFault}
    (h : tree.stage path text = (.error fault, after)) :
  Opened (IsAbove path) tree after
  := by
  have opens := tree.opened_above path
  unfold stage at h
  dsimp only at h
  split at h
  · next made =>
    obtain ⟨-, rfl⟩ := Prod.mk.inj h
    rwa [made] at opens
  · next made =>
    split at h
    · obtain ⟨-, rfl⟩ := Prod.mk.inj h
      rwa [made] at opens
    · simp at h

/-- A text is staged at a location where nothing is, under another name than that of its path. -/
theorem exists_opened_of_stage {source : Location}
    (h : tree.stage path text = (.ok source, after)) :
  ∃ opened, Opened (IsAbove path) tree opened ∧ opened.entry? source = none
    ∧ after = opened.put source (.file (.text text))
    ∧ ∀ directory name, (Path.components path).getLast? = some name → source ≠ directory ++ [name]
  := by
  have opens := tree.opened_above path
  unfold stage at h
  dsimp only at h
  split at h
  · simp at h
  · next opened made =>
    split at h
    · simp at h
    · next location walked =>
      obtain ⟨place, rfl⟩ := Prod.mk.inj h
      obtain rfl := Except.ok.inj place
      rw [made] at opens
      obtain ⟨free, other⟩ :=
        opened.stagingLocation_free location (Path.components path).getLast?
      refine ⟨opened, opens, free, rfl, ?_⟩
      intro directory name isLast same
      apply other name isLast
      rw [stagingLocation] at same ⊢
      obtain ⟨rfl, named⟩ := List.append_inj' same rfl
      rw [named]

end

end ConfigTemplate.FileTree
