/-!
# Outcomes of calls

A call changes a state in place and gives back a value or an error, with the state that is
left in both cases. A caller that keeps the state from before the call is only interested
in the outcome: the value with the new state, or the error.
-/

namespace PageHost

variable {ε σ α : Type}

/-- The outcome of a call on a state. -/
def outcome (call : EStateM ε σ α) (s : σ) : Except ε (α × σ) :=
  match call s with
  | .ok a s => .ok (a, s)
  | .error e _ => .error e

/-- A call that changes nothing when it fails. -/
def Atomic (call : EStateM ε σ α) : Prop := ∀ s e after, call s = .error e after → after = s

/-- The outcome tells all about such a call. -/
theorem Atomic.run_eq {call : EStateM ε σ α} (h : Atomic call) (s : σ) :
    call s = match outcome call s with
      | .error e => .error e s
      | .ok (a, after) => .ok a after := by
  unfold outcome
  cases hr : call s with
  | ok a after => rfl
  | error e after => rw [h s e after hr]

end PageHost
