/-!
# Steps that can fail

Edits and operations on the document are state transformers that give back a
state even when they fail. A `Ensures` statement says what holds of that state,
and it is proved along the sequence of the steps.
-/

namespace PageHost

variable {ε σ α β : Type}

/-- The state that is left, whether the step failed or not. -/
def left : EStateM.Result ε σ α → σ
  | .ok _ s => s
  | .error _ s => s

/-- What a step gives back, unless it failed. -/
def given : EStateM.Result ε σ α → Option α
  | .ok a _ => some a
  | .error _ _ => none

/-- A result that gives a value is a success. -/
theorem eq_ok_of_given {r : EStateM.Result ε σ α} {a : α} (h : given r = some a) :
    r = .ok a (left r) := by
  cases r with
  | ok b s =>
    cases h
    rfl
  | error e s => cases h

/-- Why a step failed, if it did. -/
def failure : EStateM.Result ε σ α → Option ε
  | .ok _ _ => none
  | .error e _ => some e

theorem eq_error_of_failure {r : EStateM.Result ε σ α} {e : ε} (h : failure r = some e) :
    r = .error e (left r) := by
  cases r with
  | ok a s => cases h
  | error e' s =>
    cases h
    rfl

/-- What a step gives back, or why it failed. -/
def answer : EStateM.Result ε σ α → Except ε α
  | .ok a _ => .ok a
  | .error e _ => .error e

/-- A sequence runs the first part and, if that succeeds, the next. -/
theorem run_bind (first : EStateM ε σ α) (next : α → EStateM ε σ β) (s : σ) :
    (first >>= next) s =
      match first s with
      | .ok a s => next a s
      | .error e s => .error e s := by
  show EStateM.bind first next s = _
  rw [EStateM.bind]
  cases first s <;> rfl

theorem run_bind_of_ok {first : EStateM ε σ α} {s s' : σ} {a : α} (h : first s = .ok a s')
    (next : α → EStateM ε σ β) : (first >>= next) s = next a s' := by
  rw [run_bind, h]

theorem run_bind_of_error {first : EStateM ε σ α} {s s' : σ} {e : ε} (h : first s = .error e s')
    (next : α → EStateM ε σ β) : (first >>= next) s = .error e s' := by
  rw [run_bind, h]

/-- A step that starts where `pre` holds ends well where `ok` holds of its result
and its state, or fails where `failed` holds. -/
def Ensures (pre : σ → Prop) (step : EStateM ε σ α) (ok : α → σ → Prop) (failed : σ → Prop) :
    Prop :=
  ∀ s, pre s →
    match step s with
    | .ok a s => ok a s
    | .error _ s => failed s

/-- A value ensures what holds of it already. -/
theorem ensures_pure {pre failed : σ → Prop} {ok : α → σ → Prop} {a : α}
    (h : ∀ s, pre s → ok a s) : Ensures pre (pure a : EStateM ε σ α) ok failed := h

/-- A sequence ensures what its last part does. -/
theorem ensures_bind {pre failed : σ → Prop} {mid : α → σ → Prop} {ok : β → σ → Prop}
    {first : EStateM ε σ α} {next : α → EStateM ε σ β} (h : Ensures pre first mid failed)
    (h' : ∀ a, Ensures (mid a) (next a) ok failed) : Ensures pre (first >>= next) ok failed := by
  intro s hs
  have hfirst := h s hs
  rw [run_bind]
  cases hr : first s with
  | ok a t =>
    rw [hr] at hfirst
    exact h' a t hfirst
  | error e t =>
    rw [hr] at hfirst
    exact hfirst

/-- What is ensured may be weakened, and what is required may be strengthened. -/
theorem Ensures.mono {pre pre' failed failed' : σ → Prop} {ok ok' : α → σ → Prop}
    {step : EStateM ε σ α} (h : Ensures pre step ok failed) (hpre : ∀ s, pre' s → pre s)
    (hok : ∀ a s, ok a s → ok' a s) (hfailed : ∀ s, failed s → failed' s) :
    Ensures pre' step ok' failed' := by
  intro s hs
  have hrun := h s (hpre s hs)
  cases hr : step s with
  | ok a t =>
    rw [hr] at hrun
    exact hok a t hrun
  | error e t =>
    rw [hr] at hrun
    exact hfailed t hrun

/-- What holds at both ends of a step holds of the state that it leaves. -/
theorem Ensures.left {pre post : σ → Prop} {step : EStateM ε σ α}
    (h : Ensures pre step (fun _ => post) post) {s : σ} (hs : pre s) : post (left (step s)) := by
  have hrun := h s hs
  cases hr : step s with
  | ok a t =>
    rw [hr] at hrun
    exact hrun
  | error e t =>
    rw [hr] at hrun
    exact hrun

end PageHost
