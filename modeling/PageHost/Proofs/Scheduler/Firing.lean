import PageHost.Proofs.Scheduler.Course
/-!
# Firing amid actions

A timer that fires joins the queue and is armed no more. No action reads either, except that
it may arm a timer or disarm one; so it makes no difference to an action whether a timer that
was armed before it fires before or after it.
-/

namespace PageHost.Scheduler

variable {s : Scheduler} {t : Timer}

/-- A request can be made before or after a timer fires. -/
theorem schedule_fire (hk : t.request < s.requests.length) (kind : CallbackKind) (delay : Nat)
    (timedOut : Bool) (deadline : Option Nat) (degraded : Bool) (body : List Action) :
    (s.fire t).schedule kind delay timedOut deadline degraded body =
      ((s.schedule kind delay timedOut deadline degraded body).1,
        (s.schedule kind delay timedOut deadline degraded body).2.fire t) := by
  have hne : s.requests.length ≠ t.request := by omega
  simp [schedule, fire, hne]

theorem requestIdle_fire (hk : t.request < s.requests.length) (timeout : Option Nat)
    (body : List Action) :
    (s.fire t).requestIdle timeout body =
      ((s.requestIdle timeout body).1, (s.requestIdle timeout body).2.fire t) := by
  have ht : (s.fire t).timing = s.timing := rfl
  simp only [requestIdle, ht]
  split
  · exact schedule_fire hk _ _ _ _ _ _
  · exact schedule_fire hk _ _ _ _ _ _

theorem requestFrame_fire (hk : t.request < s.requests.length) (body : List Action) :
    (s.fire t).requestFrame body =
      ((s.requestFrame body).1, (s.requestFrame body).2.fire t) := by
  have ht : (s.fire t).timing = s.timing := rfl
  simp only [requestFrame, ht]
  split
  · exact schedule_fire hk _ _ _ _ _ _
  · exact schedule_fire hk _ _ _ _ _ _

/-- A cancellation can be made before or after a timer fires. -/
theorem cancel_fire (s : Scheduler) (t : Timer) (handle : CallbackHandle) :
    (s.fire t).cancel handle = ((s.cancel handle).1, (s.cancel handle).2.fire t) := by
  have hp : (s.fire t).pending = s.pending := rfl
  simp only [cancel, hp]
  cases Keyed.get? s.pending handle.id with
  | none => rfl
  | some entry => simp [fire, List.filter_filter, Bool.and_comm]

/-- A timer that fires before an action may fire after it as well. -/
theorem perform_fire (hk : t.request < s.requests.length) (action : Action) :
    (s.fire t).perform action = ((s.perform action).1, (s.perform action).2.fire t) := by
  cases action with
  | idle timeout body =>
    rw [perform, requestIdle_fire hk]
    rfl
  | frame body =>
    rw [perform, requestFrame_fire hk]
    rfl
  | cancel request =>
    have hr : (s.fire t).requests = s.requests := rfl
    simp only [perform, hr]
    cases s.requests[request]? with
    | none => rfl
    | some handle =>
      simp only [cancel_fire]
  | pending => rfl

/-- Lets timers fire one after the other. -/
def fireAll (s : Scheduler) (timers : List Timer) : Scheduler := timers.foldl fire s

@[simp] theorem fireAll_append (s : Scheduler) (timers more : List Timer) :
    s.fireAll (timers ++ more) = (s.fireAll timers).fireAll more := List.foldl_append

/-- Timers that fire join the queue in order. -/
theorem fired_fireAll (s : Scheduler) (timers : List Timer) :
    (s.fireAll timers).fired = s.fired ++ timers.map fun t => ⟨t.id, t.timedOut⟩ := by
  induction timers generalizing s with
  | nil => exact (List.append_nil _).symm
  | cons t rest ih => simpa [fireAll, fire] using ih (s.fire t)

/-- Timers that fire touch no pending callback. -/
@[simp] theorem pending_fireAll (s : Scheduler) (timers : List Timer) :
    (s.fireAll timers).pending = s.pending := by
  induction timers generalizing s with
  | nil => rfl
  | cons t rest ih => exact ih (s.fire t)

@[simp] theorem requests_fireAll (s : Scheduler) (timers : List Timer) :
    (s.fireAll timers).requests = s.requests := by
  induction timers generalizing s with
  | nil => rfl
  | cons t rest ih => exact ih (s.fire t)

/-- An action can be made before or after timers fire. -/
theorem perform_fireAll {timers : List Timer}
    (hk : ∀ t ∈ timers, t.request < s.requests.length) (action : Action) :
    (s.fireAll timers).perform action =
      ((s.perform action).1, (s.perform action).2.fireAll timers) := by
  induction timers generalizing s with
  | nil => rfl
  | cons t rest ih =>
    have hfirst : t.request < s.requests.length := hk t List.mem_cons_self
    have hrest : ∀ other ∈ rest, other.request < (s.fire t).requests.length :=
      fun other hm => hk other (List.mem_cons_of_mem _ hm)
    calc ((s.fire t).fireAll rest).perform action
        = (((s.fire t).perform action).1, ((s.fire t).perform action).2.fireAll rest) := ih hrest
      _ = ((s.perform action).1, ((s.perform action).2.fire t).fireAll rest) := by
        rw [perform_fire hfirst]

/-- Taking a callback away makes no difference to timers that fire. -/
theorem erase_fireAll (s : Scheduler) (timers : List Timer) (id : Nat) :
    { s.fireAll timers with pending := Keyed.erase s.pending id } =
      { s with pending := Keyed.erase s.pending id }.fireAll timers := by
  induction timers generalizing s with
  | nil => rfl
  | cons t rest ih => exact ih (s.fire t)

end PageHost.Scheduler
