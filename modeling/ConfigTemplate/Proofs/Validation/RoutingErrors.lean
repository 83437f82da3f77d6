import ConfigTemplate.Proofs.Validation.Rules
import ConfigTemplate.Proofs.Validation.Sections
import Mathlib.Data.List.Perm.Subperm

/-!
# Errors on token dropping

Each thing that can be wrong with token dropping has its own error, and the error is in the report
exactly if that thing is wrong: `reported_iff`.  The errors on the number of layers depend on each
other: where more layers are declared than there are, too few are named, or one of those named is
not there or named twice: `excess_accompanied`.
-/

namespace ConfigTemplate.Validation

open Training

/-- What can be wrong with token dropping. -/
inductive RoutingFault where
  /-- More layers are declared than there are. -/
  | excess
  /-- Not as many layers are named as are declared. -/
  | count
  /-- A layer is named that is not there. -/
  | range
  /-- A layer is named twice. -/
  | repetition
  /-- The least number of tokens exceeds the greatest one. -/
  | order
  /-- The least number of tokens is negative. -/
  | sign
  /-- The number of steps is not positive. -/
  | steps
deriving DecidableEq

namespace RoutingFault

/-- What the error says first, whatever the numbers are. -/
def opening : RoutingFault → String
  | excess => "random_ltd_layer_num "
  | count => "random_ltd_layer_id has "
  | range => "Layer ids not below total_layer_num "
  | repetition => "Duplicate layer ids: "
  | order | sign => "Schedule min_value "
  | steps => "Schedule require_steps must be positive (got "

/-- What the error says after its opening. -/
def details (ltd : RandomLtd) : RoutingFault → String
  | excess =>
    Number.integerText ltd.layerNum.value ++ " exceeds total_layer_num "
      ++ Number.integerText ltd.totalLayerNum.value
  | count =>
    toString ltd.layerIds.length ++ " entries but random_ltd_layer_num is "
      ++ Number.integerText ltd.layerNum.value
  | range =>
    Number.integerText ltd.totalLayerNum.value ++ ": "
      ++ listedIntegers
        ((ltd.layerIds.map Json.Whole.value).filter (ltd.totalLayerNum.value ≤ ·))
  | repetition => listedIntegers (duplicates (ltd.layerIds.map Json.Whole.value))
  | order =>
    ltd.schedule.minValue.text ++ " exceeds max_value " ++ ltd.schedule.maxValue.text
  | sign => ltd.schedule.minValue.text ++ " is negative"
  | steps => ltd.schedule.scheduleConfig.requireSteps.text ++ ")"

/-- The error on what is wrong. -/
def error (ltd : RandomLtd) (fault : RoutingFault) : Message :=
  routingError (fault.opening ++ fault.details ltd)

/-- That very thing is wrong.  The schedule is looked at only if token dropping is enabled. -/
def Occurs (ltd : RandomLtd) : RoutingFault → Prop
  | excess => ltd.totalLayerNum.value < ltd.layerNum.value
  | count => (ltd.layerIds.length : Int) ≠ ltd.layerNum.value
  | range => ∃ id ∈ ltd.layerIds, ltd.totalLayerNum.value ≤ id.value
  | repetition => ¬ltd.layerIds.Nodup
  | order => ltd.enabled = true
    ∧ ltd.schedule.maxValue.toBinary < ltd.schedule.minValue.toBinary
  | sign => ltd.enabled = true ∧ ltd.schedule.minValue.toBinary < zero
  | steps => ltd.enabled = true ∧ ltd.schedule.scheduleConfig.requireSteps.toBinary ≤ zero

/-! ### Each fault has its own error -/

/-- An opening that starts another one is the same. -/
theorem opening_eq_of_starts {f g : RoutingFault} (starts : f.opening.toList <+: g.opening.toList) :
  f.opening = g.opening
  := by
  revert starts
  cases f <;> cases g <;> decide

theorem eq_or_of_opening_eq {f g : RoutingFault} (same : f.opening = g.opening) :
  f = g ∨ (f = order ∧ g = sign) ∨ (f = sign ∧ g = order)
  := by
  revert same
  cases f <;> cases g <;> decide

/-- An order that is wrong and a sign that is wrong are told apart after the number. -/
theorem details_order_ne (ltd : RandomLtd) :
  order.details ltd ≠ sign.details ltd
  := by
  intro same
  have after := congrArg String.toList same
  simp only [details, String.toList_append, List.append_assoc, List.append_cancel_left_eq] at after
  exact absurd after (by simp)

theorem error_injective (ltd : RandomLtd) :
  Function.Injective (error ltd)
  := by
  intro f g same
  have texts : f.opening ++ f.details ltd = g.opening ++ g.details ltd := congrArg Message.text same
  have chars := congrArg String.toList texts
  rw [String.toList_append, String.toList_append] at chars
  have openings : f.opening = g.opening := by
    rcases List.prefix_or_prefix_of_prefix (List.prefix_append _ _)
      (chars ▸ List.prefix_append f.opening.toList (f.details ltd).toList) with back | forth
    · exact (opening_eq_of_starts back).symm
    · exact opening_eq_of_starts forth
  rcases eq_or_of_opening_eq openings with same | ⟨rfl, rfl⟩ | ⟨rfl, rfl⟩
  · exact same
  · exact absurd (String.append_right_inj _ |>.1 texts) (details_order_ne ltd)
  · exact absurd (String.append_right_inj _ |>.1 texts).symm (details_order_ne ltd)

end RoutingFault

/-! ### The errors of a report -/

open RoutingFault

/-- The faults that concern the layers, in the order of their errors. -/
def layerFaults : List RoutingFault := [excess, count, range, repetition]

/-- The faults that concern the schedule, in the order of their errors. -/
def scheduleFaults : List RoutingFault := [order, sign, steps]

theorem mem_scheduleFaults_of_not_mem {fault : RoutingFault} (other : fault ∉ layerFaults) :
  fault ∈ scheduleFaults
  := by
  revert other
  cases fault <;> decide

/-- The schedule is looked at only if token dropping is enabled. -/
theorem enabled_of_occurs {ltd : RandomLtd} {fault : RoutingFault} (other : fault ∉ layerFaults)
    (occurs : fault.Occurs ltd) :
  ltd.enabled = true
  := by
  cases fault with
  | excess | count | range | repetition => exact absurd (by decide) other
  | order | sign | steps => exact occurs.1

theorem mem_layerMessages_iff {ltd : RandomLtd} {m : Message} :
  m ∈ layerMessages ltd ↔ ∃ fault ∈ layerFaults, fault.Occurs ltd ∧ m = fault.error ltd
  := by
  simp [layerMessages, layerFaults, Occurs, error, opening, details, String.append_assoc,
    duplicates_layerIds_eq_nil_iff]

/-- The schedule may also be worth a warning. -/
theorem mem_tokenScheduleMessages_iff {ltd : RandomLtd} {m : Message} (enabled : ltd.enabled = true)
    (grave : m.severity = .error) :
  m ∈ tokenScheduleMessages ltd ↔ ∃ fault ∈ scheduleFaults, fault.Occurs ltd ∧ m = fault.error ltd
  := by
  have warned (text : String) : m ≠ routingWarning text := by
    rintro rfl
    cases grave
  simp [tokenScheduleMessages, scheduleFaults, Occurs, error, opening, details, enabled, warned,
    String.append_assoc]

variable {check : PathCheck} {c : Config}

/-- The errors on token dropping are those on its faults. -/
theorem mem_routingMessages_iff {m : Message} (grave : m.severity = .error) :
  m ∈ routingMessages c ↔ ∃ fault : RoutingFault,
    fault.Occurs c.dataEfficiency.dataRouting.randomLtd
      ∧ m = fault.error c.dataEfficiency.dataRouting.randomLtd
  := by
  have parts : m ∈ routingMessages c ↔
      m ∈ layerMessages c.dataEfficiency.dataRouting.randomLtd ∨
      (c.dataEfficiency.dataRouting.randomLtd.enabled = true ∧
        m ∈ tokenScheduleMessages c.dataEfficiency.dataRouting.randomLtd) := by
    have warned (text : String) : m ≠ routingWarning text := by
      rintro rfl
      cases grave
    have remarked (text : String) : m ≠ ⟨text, .info, "random_ltd"⟩ := by
      rintro rfl
      cases grave
    cases on : c.dataEfficiency.dataRouting.randomLtd.enabled with
    | false => simp [routingMessages, on, warned, remarked]
    | true => simp [routingMessages, on, warned]
  rw [parts, mem_layerMessages_iff]
  constructor
  · rintro (⟨fault, -, occurs⟩ | ⟨on, scheduled⟩)
    · exact ⟨fault, occurs⟩
    · obtain ⟨fault, -, occurs⟩ := (mem_tokenScheduleMessages_iff on grave).1 scheduled
      exact ⟨fault, occurs⟩
  · rintro ⟨fault, occurs⟩
    by_cases layer : fault ∈ layerFaults
    · exact .inl ⟨fault, layer, occurs⟩
    · have on := enabled_of_occurs layer occurs.1
      have scheduled := mem_scheduleFaults_of_not_mem layer
      exact .inr ⟨on, (mem_tokenScheduleMessages_iff on grave).2 ⟨fault, scheduled, occurs⟩⟩

/-- The report on the configuration has the error on the fault. -/
def Reported (check : PathCheck) (c : Config) (fault : RoutingFault) : Prop :=
  fault.error c.dataEfficiency.dataRouting.randomLtd ∈ (validate check c).messages

/-- **Errors on token dropping.**  An error is reported exactly if what it says is the case. -/
theorem reported_iff {fault : RoutingFault} :
  Reported check c fault ↔ fault.Occurs c.dataEfficiency.dataRouting.randomLtd
  := by
  have part : ("random_ltd", routingMessages c) ∈ sections check c := by simp [sections]
  rw [Reported, mem_validate_iff part rfl, mem_routingMessages_iff rfl]
  constructor
  · rintro ⟨other, occurs, same⟩
    rw [error_injective _ same]
    exact occurs
  · intro occurs
    exact ⟨fault, occurs, rfl⟩

/-! ### Layers -/

/-- Different layers that are there are not more than there are. -/
theorem length_le_of_nodup {ids : List (Json.Whole .unsigned32)} {total : Json.Whole .unsigned32}
    (distinct : ids.Nodup) (below : ∀ id ∈ ids, id.value < total.value) :
  (ids.length : Int) ≤ total.value
  := by
  have nonneg (id : Json.Whole .unsigned32) : 0 ≤ id.value := id.inRange.1
  have injective : Function.Injective fun id : Json.Whole .unsigned32 => id.value.toNat := by
    intro a b same
    have := nonneg a
    have := nonneg b
    apply value_injective
    simp only at same
    omega
  have among : ids.map (·.value.toNat) ⊆ List.range total.value.toNat := by
    intro place named
    obtain ⟨id, mem, rfl⟩ := List.mem_map.1 named
    rw [List.mem_range]
    have := nonneg id
    have := below id mem
    omega
  have few := (List.subperm_of_subset (distinct.map injective) among).length_le
  rw [List.length_map, List.length_range] at few
  have := nonneg total
  omega

/-- Layers that are as many as declared, that are there and that are different are all that a
configuration needs: then not too many are declared. -/
theorem layerRule_of_faults {ltd : RandomLtd}
    (rest : ∀ fault ∈ [count, range, repetition], ¬fault.Occurs ltd) :
  LayerRule ltd
  := by
  have length : (ltd.layerIds.length : Int) = ltd.layerNum.value :=
    Classical.not_not.1 (rest count (by decide))
  have below : ∀ id ∈ ltd.layerIds, id.value < ltd.totalLayerNum.value := by
    simpa [Occurs] using rest range (by decide)
  have distinct : ltd.layerIds.Nodup := Classical.not_not.1 (rest repetition (by decide))
  exact {
    declared_le := length ▸ length_le_of_nodup distinct below
    length_eq := length
    below := below
    distinct := distinct }

/-- **Errors on layers.**  Where more layers are declared than there are, the report says so, and it
has another error as well, on how many layers are named, on one that is not there or on one named
twice.  Where it has none of these, the layers are as many different ones as declared, all are
there, and so there are as many. -/
theorem excess_accompanied (check : PathCheck) (c : Config) :
  (c.dataEfficiency.dataRouting.randomLtd.totalLayerNum.value
      < c.dataEfficiency.dataRouting.randomLtd.layerNum.value →
    Reported check c excess ∧
    ∃ fault ∈ [count, range, repetition],
      Reported check c fault ∧
      fault.error c.dataEfficiency.dataRouting.randomLtd
        ≠ excess.error c.dataEfficiency.dataRouting.randomLtd) ∧
  ((∀ fault ∈ [count, range, repetition], ¬Reported check c fault) →
    LayerRule c.dataEfficiency.dataRouting.randomLtd ∧ ¬Reported check c excess)
  := by
  simp only [reported_iff]
  constructor
  · intro exceeds
    refine ⟨exceeds, ?_⟩
    have other (fault : RoutingFault) (among : fault ∈ [count, range, repetition]) :
        fault.error c.dataEfficiency.dataRouting.randomLtd
          ≠ excess.error c.dataEfficiency.dataRouting.randomLtd := by
      intro same
      rw [error_injective _ same] at among
      exact absurd among (by decide)
    by_contra alone
    have kept : LayerRule c.dataEfficiency.dataRouting.randomLtd := by
      apply layerRule_of_faults
      intro fault among occurs
      exact alone ⟨fault, among, occurs, other fault among⟩
    exact absurd kept.declared_le (Int.not_le.2 exceeds)
  · intro rest
    have kept := layerRule_of_faults rest
    exact ⟨kept, Int.not_lt.2 kept.declared_le⟩

end ConfigTemplate.Validation
