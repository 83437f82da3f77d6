import ConfigTemplate.Validation.Report
import Mathlib.Tactic.Common

/-!
# Verdicts of reports

A report that is built of messages passes exactly if none of them is an error.  Whether all messages
have a property is decided part by part.
-/

namespace ConfigTemplate

/-- All messages of the list have the property. -/
def Each (P : Message → Prop) (messages : List Message) : Prop :=
  ∀ m ∈ messages, P m

/-- No message of the list is an error. -/
abbrev Faultless : List Message → Prop := Each (·.severity ≠ .error)

section

variable {P : Message → Prop} {messages others : List Message}

@[simp]
theorem each_nil :
  Each P []
  := List.forall_mem_nil _

@[simp]
theorem each_cons {m : Message} :
  Each P (m :: messages) ↔ P m ∧ Each P messages
  := List.forall_mem_cons

@[simp]
theorem each_append :
  Each P (messages ++ others) ↔ Each P messages ∧ Each P others
  := List.forall_mem_append

@[simp]
theorem each_flatMap {α : Type} {list : List α} {messages : α → List Message} :
  Each P (list.flatMap messages) ↔ ∀ x ∈ list, Each P (messages x)
  := by
  simp only [Each, List.mem_flatMap]
  grind

@[simp]
theorem each_ite {Q : Prop} [Decidable Q] :
  Each P (if Q then messages else others) ↔ (Q → Each P messages) ∧ (¬Q → Each P others)
  := by
  split
  · next holds => simp [holds]
  · next fails => simp [fails]

end

namespace Report

/-- The messages of a report that is built up stay in their order, and each error counts. -/
theorem foldl_add (r : Report) (messages : List Message) :
  messages.foldl add r
    = ⟨r.messages ++ messages, r.passed && messages.all (·.severity != .error)⟩
  := by
  induction messages generalizing r with
  | nil => simp
  | cons m rest ih =>
    rw [List.foldl_cons, ih, add]
    simp [Bool.and_assoc]

@[simp]
theorem messages_ofMessages (messages : List Message) :
  (ofMessages messages).messages = messages
  := by
  rw [ofMessages, foldl_add]
  rfl

theorem passed_ofMessages_iff (messages : List Message) :
  (ofMessages messages).passed = true ↔ Faultless messages
  := by
  rw [ofMessages, foldl_add]
  simp [empty, Each]

/-- A report passes if it has no errors. -/
theorem passed_ofMessages (messages : List Message) :
  (ofMessages messages).passed = (ofMessages messages).errors.isEmpty
  := by
  rw [Bool.eq_iff_iff, passed_ofMessages_iff, errors, withSeverity, messages_ofMessages,
    List.isEmpty_iff, List.filter_eq_nil_iff]
  simp [Each]

end Report

end ConfigTemplate
