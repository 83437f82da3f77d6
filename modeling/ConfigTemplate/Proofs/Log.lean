import ConfigTemplate.Log
import Mathlib.Tactic.Common

/-!
# Results of logged operations

What comes out of logged operations is what comes out of the operations: the result of a sequence is
that of the results, whatever is logged on the way.
-/

namespace ConfigTemplate.Logged

variable {α β : Type}

@[simp]
theorem result_pure (value : α) :
  (pure value : Logged α).result = pure value
  := rfl

@[simp]
theorem result_ofExcept (result : Except Error α) :
  (ofExcept result).result = result
  := rfl

@[simp]
theorem result_bind (first : Logged α) (next : α → Logged β) :
  (first >>= next).result = first.result >>= fun value => (next value).result
  := by
  change (Logged.bind first next).result = _
  rw [Logged.bind]
  cases first.result with
  | error error => rfl
  | ok value => rfl

@[simp]
theorem result_info (source : LogSource) (message : String) :
  (info source message).result = pure ()
  := rfl

@[simp]
theorem result_debug (source : LogSource) (message : String) :
  (debug source message).result = pure ()
  := rfl

@[simp]
theorem result_warn (source : LogSource) (message : String) :
  (warn source message).result = pure ()
  := rfl

@[simp]
theorem result_withContext (context : String) (x : Logged α) :
  (withContext context x).result = ConfigTemplate.withContext context x.result
  := rfl

end ConfigTemplate.Logged
