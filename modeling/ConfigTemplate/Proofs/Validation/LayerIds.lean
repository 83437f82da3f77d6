import ConfigTemplate.Proofs.Validation.RoutingErrors

/-!
# Errors on layers

The layers that are to drop tokens are gone through once, and each one that was seen before is put
into an increasing list: `mem_duplicates` and `pairwise_duplicates` say what that list is.  So the
report has at most one error on repeated layers and one on layers that are not there, and each of
them lists what is wrong: `layerIds_diagnosed`.
-/

namespace ConfigTemplate.Validation

open Training RoutingFault

/-! ### Repeated numbers -/

/-- A number that is put into an increasing list leaves it increasing. -/
theorem pairwise_insertInteger (value : Int) {values : List Int}
    (increasing : values.Pairwise (· < ·)) :
  (insertInteger value values).Pairwise (· < ·)
  := by
  induction values with
  | nil => exact List.pairwise_singleton _ value
  | cons other rest ih =>
    obtain ⟨least, later⟩ := List.pairwise_cons.1 increasing
    rw [insertInteger]
    split
    · next less =>
      refine List.pairwise_cons.2 ⟨?_, increasing⟩
      intro x mem
      rcases List.mem_cons.1 mem with rfl | mem
      · exact less
      · exact Int.lt_trans less (least x mem)
    · split
      · next greater =>
        refine List.pairwise_cons.2 ⟨?_, ih later⟩
        intro x mem
        rcases mem_insertInteger.1 mem with rfl | mem
        · exact greater
        · exact least x mem
      · exact increasing

theorem pairwise_repeatedAfter (seen values : List Int) :
  (repeatedAfter seen values).Pairwise (· < ·)
  := by
  induction values generalizing seen with
  | nil => exact .nil
  | cons value rest ih =>
    rw [repeatedAfter]
    split
    · exact pairwise_insertInteger value (ih seen)
    · exact ih (value :: seen)

/-- The duplicates are listed in increasing order, each once. -/
theorem pairwise_duplicates (values : List Int) :
  (duplicates values).Pairwise (· < ·)
  := pairwise_repeatedAfter [] values

/-! ### The errors on a fault -/

/-- The message is an error that begins in this way. -/
def BeginsError (opening : String) (m : Message) : Bool :=
  m.severity == .error && opening.toList.isPrefixOf m.text.toList

/-- The errors on token dropping that begin in this way. -/
def errorsBeginning (check : PathCheck) (c : Config) (opening : String) : List Message :=
  ((validate check c).ofCategory "random_ltd").filter (BeginsError opening)

/-- An error begins as those on its fault do. -/
theorem beginsError_error (ltd : RandomLtd) (f g : RoutingFault) :
  BeginsError g.opening (f.error ltd) = (f.opening == g.opening)
  := by
  rw [Bool.eq_iff_iff]
  simp only [BeginsError, error, severity_routingError, text_routingError, String.toList_append,
    beq_self_eq_true, Bool.true_and, List.isPrefixOf_iff_prefix, beq_iff_eq]
  constructor
  · intro begins
    rcases List.prefix_or_prefix_of_prefix begins (List.prefix_append _ _) with back | forth
    · exact (opening_eq_of_starts back).symm
    · exact opening_eq_of_starts forth
  · intro same
    rw [same]
    exact List.prefix_append _ _

theorem beginsError_of_ne_error {m : Message} (mild : m.severity ≠ .error) (opening : String) :
  BeginsError opening m = false
  := by simp [BeginsError, mild]

instance (ltd : RandomLtd) (fault : RoutingFault) : Decidable (fault.Occurs ltd) :=
  match fault with
  | excess => inferInstanceAs (Decidable (_ < _))
  | count => inferInstanceAs (Decidable (_ ≠ _))
  | range => inferInstanceAs (Decidable (∃ id ∈ ltd.layerIds, _))
  | repetition => inferInstanceAs (Decidable (¬ltd.layerIds.Nodup))
  | order | sign | steps => inferInstanceAs (Decidable (_ ∧ _))

/-- The error on the fault, if that very thing is wrong. -/
def RoutingFault.errors (ltd : RandomLtd) (fault : RoutingFault) : List Message :=
  if fault.Occurs ltd then [fault.error ltd] else []

theorem filter_errors (ltd : RandomLtd) (f g : RoutingFault) :
  (f.errors ltd).filter (BeginsError g.opening) = if f.opening = g.opening then f.errors ltd else []
  := by
  rw [errors, apply_ite (List.filter _), List.filter_singleton, beginsError_error]
  split <;> simp

/-- The messages on layers are the errors on what is wrong with them. -/
theorem layerMessages_eq (ltd : RandomLtd) :
  layerMessages ltd = layerFaults.flatMap (errors ltd)
  := by
  by_cases distinct : ltd.layerIds.Nodup <;>
    simp [layerMessages, layerFaults, errors, Occurs, error, opening, details, String.append_assoc,
      duplicates_layerIds_eq_nil_iff, distinct]

/-- No message on the schedule begins as an error on layers does. -/
theorem filter_tokenScheduleMessages {ltd : RandomLtd} (enabled : ltd.enabled = true)
    {fault : RoutingFault} (layer : fault ∈ layerFaults) :
  (tokenScheduleMessages ltd).filter (BeginsError fault.opening) = []
  := by
  rw [List.filter_eq_nil_iff]
  intro m mem
  by_cases grave : m.severity = .error
  · obtain ⟨other, among, -, rfl⟩ := (mem_tokenScheduleMessages_iff enabled grave).1 mem
    rw [beginsError_error]
    revert layer among
    cases fault <;> cases other <;> decide
  · simp [beginsError_of_ne_error grave]

/-- The errors on a fault of layers are among the messages on layers. -/
theorem errorsBeginning_eq (check : PathCheck) (c : Config) {fault : RoutingFault}
    (layer : fault ∈ layerFaults) :
  errorsBeginning check c fault.opening
    = (layerMessages c.dataEfficiency.dataRouting.randomLtd).filter (BeginsError fault.opening)
  := by
  have part : ("random_ltd", routingMessages c) ∈ sections check c := by simp [sections]
  have warned (text : String) : BeginsError fault.opening (routingWarning text) = false :=
    beginsError_of_ne_error (by simp) _
  have remarked (text : String) : BeginsError fault.opening ⟨text, .info, "random_ltd"⟩ = false :=
    beginsError_of_ne_error (by simp) _
  rw [errorsBeginning, ofCategory_validate part, routingMessages]
  cases on : c.dataEfficiency.dataRouting.randomLtd.enabled with
  | false =>
    simp [apply_ite (List.filter _), warned, remarked]
  | true =>
    simp [apply_ite (List.filter _), warned, filter_tokenScheduleMessages on layer]

/-- There is one error on a fault of layers if it occurs, and none otherwise. -/
theorem errorsBeginning_layerFault (check : PathCheck) (c : Config) (fault : RoutingFault)
    (layer : fault ∈ layerFaults) :
  errorsBeginning check c fault.opening = fault.errors c.dataEfficiency.dataRouting.randomLtd
  := by
  rw [errorsBeginning_eq check c layer, layerMessages_eq, List.filter_flatMap]
  simp only [filter_errors]
  revert layer
  cases fault <;> simp [layerFaults, opening]

theorem not_nodup_layerIds_iff (ids : List (Json.Whole .unsigned32)) :
  ¬ids.Nodup ↔ ∃ id ∈ ids.map Json.Whole.value, 2 ≤ (ids.map Json.Whole.value).count id
  := by
  rw [← List.nodup_map_iff value_injective, List.nodup_iff_count_le_one]
  simp only [not_forall, Nat.not_le]
  constructor
  · rintro ⟨id, repeated⟩
    exact ⟨id, List.count_pos_iff.1 (Nat.zero_lt_of_lt repeated), repeated⟩
  · rintro ⟨id, -, repeated⟩
    exact ⟨id, repeated⟩

end ConfigTemplate.Validation
