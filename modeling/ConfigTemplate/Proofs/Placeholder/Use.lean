import ConfigTemplate.Placeholder.Use
import ConfigTemplate.Proofs.Template.Coverage
import Mathlib.Algebra.GroupWithZero.Nat
import Mathlib.Data.List.Induction

/-!
# Groups of occurrences

The occurrences of a template are put into groups one after the other, each into the group of its
name or into a new one at the end.  What comes of it is a group for each name, with all occurrences
of that name: `groupByName_eq`.  So the uses of the placeholders share the occurrences of the
template among themselves, one use for each placeholder: `uses_share`.
-/

namespace ConfigTemplate

/-! ### One more occurrence -/

/-- An occurrence of a name without a group starts one. -/
theorem addToGroup_of_new {o : Occurrence} {groups : List (List Occurrence)}
    (new : ∀ group ∈ groups, ∀ p ∈ group, p.name ≠ o.name) :
  addToGroup o groups = groups ++ [[o]]
  := by
  induction groups with
  | nil => rfl
  | cons group rest ih =>
    obtain ⟨notHere, notLater⟩ := List.forall_mem_cons.1 new
    have other : (group.any (·.name == o.name)) = false := by simpa using notHere
    rw [addToGroup, other, if_neg Bool.false_ne_true, ih notLater, List.cons_append]

/-- An occurrence goes to the end of the first group with its name. -/
theorem addToGroup_of_known {o p : Occurrence} {front back : List (List Occurrence)}
    {group : List Occurrence} (other : ∀ group ∈ front, ∀ p ∈ group, p.name ≠ o.name)
    (mem : p ∈ group) (same : p.name = o.name) :
  addToGroup o (front ++ group :: back) = front ++ (group ++ [o]) :: back
  := by
  induction front with
  | nil =>
    have known : (group.any (·.name == o.name)) = true := List.any_eq_true.2 ⟨p, mem, by simpa⟩
    rw [List.nil_append, addToGroup, known, if_pos rfl, List.nil_append]
  | cons first rest ih =>
    obtain ⟨notHere, notLater⟩ := List.forall_mem_cons.1 other
    have passed : (first.any (·.name == o.name)) = false := by simpa using notHere
    rw [List.cons_append, addToGroup, passed, if_neg Bool.false_ne_true, ih notLater,
      List.cons_append]

/-- One more occurrence is one more in the groups. -/
theorem flatten_addToGroup_perm (o : Occurrence) (groups : List (List Occurrence)) :
  (addToGroup o groups).flatten.Perm (groups.flatten ++ [o])
  := by
  induction groups with
  | nil => exact .refl [o]
  | cons group rest ih =>
    rw [addToGroup]
    split
    · rw [List.flatten_cons, List.flatten_cons, List.append_assoc, List.append_assoc]
      exact List.perm_append_comm.append_left group
    · rw [List.flatten_cons, List.flatten_cons, List.append_assoc]
      exact ih.append_left group

/-! ### All occurrences -/

theorem groupByName_append_singleton (occurrences : List Occurrence) (o : Occurrence) :
  groupByName (occurrences ++ [o]) = addToGroup o (groupByName occurrences)
  := List.foldl_append

/-- All occurrences are in the groups. -/
theorem flatten_groupByName_perm (occurrences : List Occurrence) :
  (groupByName occurrences).flatten.Perm occurrences
  := by
  induction occurrences using List.reverseRecOn with
  | nil => exact .refl []
  | append_singleton occurrences o ih =>
    rw [groupByName_append_singleton]
    exact (flatten_addToGroup_perm o _).trans (ih.append_right [o])

theorem mem_distinctNames {occurrences : List Occurrence} {name : String} :
  name ∈ distinctNames occurrences ↔ ∃ o ∈ occurrences, o.name = name
  := by rw [(firstAppearance_distinctNames occurrences).mem_iff, List.mem_map]

theorem eraseDups_append_singleton (names : List String) (name : String) :
  (names ++ [name]).eraseDups
    = if name ∈ names then names.eraseDups else names.eraseDups ++ [name]
  := by
  rw [List.eraseDups_append]
  by_cases known : name ∈ names <;> simp [List.removeAll, known, List.eraseDups_cons]

/-- A further name is listed behind the others, unless it is among them. -/
theorem distinctNames_append_singleton (occurrences : List Occurrence) (o : Occurrence) :
  distinctNames (occurrences ++ [o])
    = if o.name ∈ distinctNames occurrences then distinctNames occurrences
      else distinctNames occurrences ++ [o.name]
  := by
  have listed := (firstAppearance_distinctNames occurrences).mem_iff o.name
  rw [distinctNames, List.map_append, List.map_singleton, eraseDups_append_singleton]
  exact if_congr listed.symm rfl rfl

/-- The occurrences of a name. -/
def occurrencesOf (occurrences : List Occurrence) (name : String) : List Occurrence :=
  occurrences.filter (·.name == name)

theorem name_of_mem_occurrencesOf {occurrences : List Occurrence} {name : String} {o : Occurrence}
    (mem : o ∈ occurrencesOf occurrences name) :
  o.name = name
  := by simpa using (List.mem_filter.1 mem).2

/-- The groups of other names stay as they are. -/
theorem map_occurrencesOf_append {occurrences : List Occurrence} {names : List String}
    {o : Occurrence} (other : o.name ∉ names) :
  names.map (occurrencesOf (occurrences ++ [o])) = names.map (occurrencesOf occurrences)
  := by
  apply List.map_congr_left
  intro name mem
  have : o.name ≠ name := by
    rintro rfl
    exact other mem
  simp [occurrencesOf, this]

theorem name_ne_of_mem_groups {occurrences : List Occurrence} {names : List String} {name : String}
    (other : name ∉ names) :
  ∀ group ∈ names.map (occurrencesOf occurrences), ∀ p ∈ group, p.name ≠ name
  := by
  rw [List.forall_mem_map]
  rintro listed mem p inGroup rfl
  rw [name_of_mem_occurrencesOf inGroup] at other
  contradiction

/-- There is a group for each name, in the order in which the names first appear, and all
occurrences of the name are in it, in their order. -/
theorem groupByName_eq (occurrences : List Occurrence) :
  groupByName occurrences = (distinctNames occurrences).map (occurrencesOf occurrences)
  := by
  induction occurrences using List.reverseRecOn with
  | nil => rfl
  | append_singleton occurrences o ih =>
    have own : occurrencesOf (occurrences ++ [o]) o.name
        = occurrencesOf occurrences o.name ++ [o] := by simp [occurrencesOf]
    rw [groupByName_append_singleton, ih]
    by_cases known : o.name ∈ distinctNames occurrences
    · have once := (firstAppearance_distinctNames occurrences).nodup
      obtain ⟨p, mem, same⟩ := mem_distinctNames.1 known
      have inGroup : p ∈ occurrencesOf occurrences o.name :=
        List.mem_filter.2 ⟨mem, by simpa using same⟩
      rw [distinctNames_append_singleton, if_pos known]
      -- no name is listed twice, so only the group in the middle gets the occurrence
      obtain ⟨front, back, names⟩ := List.append_of_mem known
      rw [names] at once ⊢
      obtain ⟨notBefore, notBehind⟩ : o.name ∉ front ∧ o.name ∉ back := by
        grind
      rw [List.map_append, List.map_cons, List.map_append, List.map_cons,
        addToGroup_of_known (name_ne_of_mem_groups notBefore) inGroup same, own,
        map_occurrencesOf_append notBefore, map_occurrencesOf_append notBehind]
    · have nothing : occurrencesOf occurrences o.name = [] := by
        rw [occurrencesOf, List.filter_eq_nil_iff]
        intro p mem same
        exact known (mem_distinctNames.2 ⟨p, mem, by simpa using same⟩)
      rw [distinctNames_append_singleton, if_neg known, List.map_append,
        map_occurrencesOf_append known, addToGroup_of_new (name_ne_of_mem_groups known),
        List.map_singleton, own, nothing, List.nil_append]

/-! ### Forms -/

namespace CommonForm

/-- What a common form says about the occurrences. -/
def Fits : CommonForm → List Occurrence → Prop
  | .bare, occurrences => ∀ o ∈ occurrences, o.form = .bare
  | .quoted, occurrences => ∀ o ∈ occurrences, o.form = .quoted
  | .mixed, occurrences =>
    (∃ o ∈ occurrences, o.form = .bare) ∧ ∃ o ∈ occurrences, o.form = .quoted

theorem fits_ofOccurrences (occurrences : List Occurrence) :
  (ofOccurrences occurrences).Fits occurrences
  := by
  have other (form : Form) : form ≠ .bare ↔ form = .quoted := by cases form <;> decide
  have another (form : Form) : form ≠ .quoted ↔ form = .bare := by cases form <;> decide
  rw [ofOccurrences]
  split
  · next bare => simpa [Fits] using bare
  · next notBare =>
    split
    · next quoted => simpa [Fits] using quoted
    · next notQuoted =>
      simp only [List.all_eq_true, beq_iff_eq, not_forall, exists_prop, other, another]
        at notBare notQuoted
      exact ⟨notQuoted, notBare⟩

/-- No two common forms fit the same occurrences, if there are any. -/
theorem eq_of_fits {occurrences : List Occurrence} (nonempty : occurrences ≠ []) {f g : CommonForm}
    (fits : f.Fits occurrences) (alsoFits : g.Fits occurrences) :
  f = g
  := by
  obtain ⟨o, mem⟩ := List.exists_mem_of_ne_nil occurrences nonempty
  cases f <;> cases g <;> grind [Fits]

theorem ofOccurrences_eq_iff {occurrences : List Occurrence} (nonempty : occurrences ≠ [])
    {f : CommonForm} :
  ofOccurrences occurrences = f ↔ f.Fits occurrences
  := by
  constructor
  · rintro rfl
    exact fits_ofOccurrences occurrences
  · exact eq_of_fits nonempty (fits_ofOccurrences occurrences)

theorem text_injective :
  Function.Injective text
  := by
  intro f g
  cases f <;> cases g <;> decide

end CommonForm

/-! ### Uses -/

/-- A name has a catalog entry if it is documented. -/
theorem isSome_documented?_iff (name : String) :
  (documented? name).isSome = true ↔ name ∈ documentedNames
  := by
  simp [documented?, documentedNames]

theorem of_documented?_eq_some {name : String} {entry : CatalogEntry}
    (found : documented? name = some entry) :
  entry ∈ catalog ∧ entry.name = name
  := ⟨List.mem_of_find?_eq_some found, by simpa using List.find?_some found⟩

namespace Template

variable (t : Template)

/-- The use of a placeholder has the group of its occurrences. -/
theorem ofGroup_occurrencesOf {name : String} (mem : name ∈ t.placeholders) :
  PlaceholderUse.ofGroup (occurrencesOf t.occurrences name)
    = ⟨name, occurrencesOf t.occurrences name, .ofOccurrences (occurrencesOf t.occurrences name),
        documented? name⟩
  := by
  obtain ⟨o, isOne, same⟩ := mem_distinctNames.1 mem
  have inGroup : o ∈ occurrencesOf t.occurrences name :=
    List.mem_filter.2 ⟨isOne, by simpa using same⟩
  obtain ⟨first, rest, group⟩ := List.exists_cons_of_ne_nil (List.ne_nil_of_mem inGroup)
  have named : first.name = name := name_of_mem_occurrencesOf (group ▸ List.mem_cons_self)
  rw [group, PlaceholderUse.ofGroup]
  simp [named]

theorem uses_eq :
  t.uses = t.placeholders.map fun name =>
    ⟨name, occurrencesOf t.occurrences name, .ofOccurrences (occurrencesOf t.occurrences name),
        documented? name⟩
  := by
  rw [uses, groupByName_eq, List.map_map]
  exact List.map_congr_left fun name mem => t.ofGroup_occurrencesOf mem

theorem flatMap_uses_perm :
  (t.uses.flatMap (·.occurrences)).Perm t.occurrences
  := by
  have groups : t.uses.flatMap (·.occurrences) = (groupByName t.occurrences).flatten := by
    rw [uses, List.flatMap_map, ← List.flatMap_id]
    rfl
  rw [groups]
  exact flatten_groupByName_perm _

/-- **Uses of placeholders.**  There is one use for each placeholder, in the order of the
placeholders.  It has all occurrences of its name in their order, at least one, so the uses share
the occurrences of the template among themselves.  Its form is that of all of its occurrences, and
mixed if both forms are among them, and it has a catalog entry, of its own name, exactly if the name
is documented. -/
theorem uses_share :
  t.uses.map (·.name) = t.placeholders ∧ t.placeholders.Nodup ∧
  (∀ u ∈ t.uses,
    u.occurrences ≠ [] ∧
    u.occurrences = t.occurrences.filter (·.name == u.name) ∧
    (u.form.text = "bare" ↔ ∀ o ∈ u.occurrences, o.form = .bare) ∧
    (u.form.text = "quoted" ↔ ∀ o ∈ u.occurrences, o.form = .quoted) ∧
    (u.form.text = "mixed" ↔
      (∃ o ∈ u.occurrences, o.form = .bare) ∧ ∃ o ∈ u.occurrences, o.form = .quoted) ∧
    (u.entry.isSome = true ↔ u.name ∉ t.coverage.undocumented) ∧
    (∀ entry ∈ u.entry, entry ∈ catalog ∧ entry.name = u.name)) ∧
  (t.uses.flatMap (·.occurrences)).Perm t.occurrences ∧
  (t.uses.map (·.occurrences.length)).sum = t.occurrences.length
  := by
  refine ⟨?_, (firstAppearance_distinctNames _).nodup, ?_, t.flatMap_uses_perm, ?_⟩
  · simp [uses_eq, Function.comp_def]
  · rw [uses_eq, List.forall_mem_map]
    intro name mem
    obtain ⟨o, isOne, same⟩ := mem_distinctNames.1 mem
    have nonempty : occurrencesOf t.occurrences name ≠ [] :=
      List.ne_nil_of_mem (List.mem_filter.2 ⟨isOne, by simpa using same⟩)
    have form (f : CommonForm) :
        (CommonForm.ofOccurrences (occurrencesOf t.occurrences name)).text = f.text
          ↔ f.Fits (occurrencesOf t.occurrences name) := by
      rw [CommonForm.text_injective.eq_iff, CommonForm.ofOccurrences_eq_iff nonempty]
    refine ⟨nonempty, rfl, form .bare, form .quoted, form .mixed, ?_, ?_⟩
    · rw [isSome_documented?_iff, coverage, Coverage.mem_undocumented]
      simp [mem]
    · intro entry found
      exact of_documented?_eq_some found
  · rw [← t.flatMap_uses_perm.length_eq, List.length_flatMap]

end Template

end ConfigTemplate
