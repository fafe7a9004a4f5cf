import PageHost.Keyed
import PageHost.Config.Basic
import PageHost.Word
/-!
# Scheduled callbacks

Callbacks are requested for idle time or for the next frame. A request arms a
timer; a timer that fires puts the id of its callback into a queue; draining the
queue runs the callbacks that are still pending. Firing never runs anything, and
what a callback requests is not run by the drain that runs the callback.

A callback is a list of actions: requests, cancellations and questions. Time is
counted in nanoseconds since the scheduler started. Which timers fire and when
is left to `Scheduler.Clock`; here `fire` lets any armed timer fire.
-/

namespace PageHost

/-- The kind of a callback. -/
inductive CallbackKind where
  | idle
  | frame
deriving Repr, DecidableEq

/-- The name of a kind. -/
def CallbackKind.name : CallbackKind → String
  | .idle => "idle"
  | .frame => "animation frame"

/-- What the scheduler needs of a configuration, times in nanoseconds. -/
structure Timing where
  frameInterval : Nat
  idleDelay : Nat
  idleBudget : Nat
  capabilities : Capabilities
deriving Repr, DecidableEq

/-- Nanoseconds in a millisecond. -/
def nanosPerMilli : Nat := 1000000

/-- The timing of a configuration. -/
def Timing.ofConfig (config : Config) : Timing where
  frameInterval := config.frameInterval * nanosPerMilli
  idleDelay := config.idleDelayMs * nanosPerMilli
  idleBudget := config.idleBudgetMs * nanosPerMilli
  capabilities := config.capabilities

/-- What a caller gets for a request. -/
structure CallbackHandle where
  id : Nat
  kind : CallbackKind
  /-- Whether the host lacks the capability and used a plain timer. -/
  degraded : Bool
deriving Repr, DecidableEq

/-- What a callback does. -/
inductive Action where
  /-- Requests an idle callback, with a timeout in nanoseconds. -/
  | idle (timeout : Option Nat) (body : List Action)
  /-- Requests a frame callback. -/
  | frame (body : List Action)
  /-- Cancels the callback of the request with this number, counted from 0. -/
  | cancel (request : Nat)
  /-- Asks how many callbacks are pending. -/
  | pending

/-- What an action answers. -/
inductive Answer where
  /-- The number of the request and its handle. -/
  | requested (request : Nat) (handle : CallbackHandle)
  /-- Whether the callback was pending; none if there is no such request. -/
  | cancelled (result : Option Bool)
  | pending (count : Nat)

/-- What a callback is told when it runs. -/
inductive Tick where
  /-- The nanoseconds left, and whether the timeout was the reason to run. -/
  | idle (remaining : Nat) (didTimeout : Bool)
  /-- The nanoseconds since the scheduler started. -/
  | frame (elapsed : Nat)
deriving Repr, DecidableEq

/-- A callback that has not run. -/
structure PendingCallback where
  kind : CallbackKind
  /-- The number of the request. -/
  request : Nat
  /-- When the idle time ends; none for frames. -/
  deadline : Option Nat
  body : List Action

/-- A timer that has not fired. -/
structure Timer where
  due : Nat
  /-- The number of the request that armed it. -/
  request : Nat
  /-- The callback that it is for. -/
  id : Nat
  timedOut : Bool
deriving Repr, DecidableEq

/-- An entry of the queue. -/
structure Fired where
  id : Nat
  timedOut : Bool
deriving Repr, DecidableEq

/-- A callback that ran. -/
structure Run where
  request : Nat
  tick : Tick
  answers : List Answer

/-- The state of a scheduler. -/
structure Scheduler where
  timing : Timing
  /-- Nanoseconds since the start. -/
  now : Nat
  nextId : Nat
  /-- The pending callbacks by id. -/
  pending : Keyed Nat PendingCallback
  /-- The armed timers in the order of their requests. -/
  timers : List Timer
  /-- The queue, what fired first at its front. -/
  fired : List Fired
  /-- The handles of all requests so far, in order. -/
  requests : List CallbackHandle

namespace Scheduler

/-- A scheduler that starts now. -/
def start (timing : Timing) : Scheduler := ⟨timing, 0, 1, [], [], [], []⟩

/-- The number of pending callbacks. -/
def pendingCount (s : Scheduler) : Nat := s.pending.length

/-- Whether a callback is pending. -/
def hasPending (s : Scheduler) : Bool := !s.pending.isEmpty

/-- The id after an id: ids have 32 bits and skip 0 when they start over. -/
def idAfter (id : Nat) : Nat := max ((id + 1) % 4294967296) 1

/-! ## Requests -/

/-- Enters a callback and arms its timer. -/
def schedule (s : Scheduler) (kind : CallbackKind) (delay : Nat) (timedOut : Bool)
    (deadline : Option Nat) (degraded : Bool) (body : List Action) :
    CallbackHandle × Scheduler :=
  let request := s.requests.length
  let handle : CallbackHandle := ⟨s.nextId, kind, degraded⟩
  (handle,
    { s with
      nextId := idAfter s.nextId
      pending := Keyed.set s.pending s.nextId ⟨kind, request, deadline, body⟩
      timers := s.timers ++ [⟨s.now + delay, request, s.nextId, timedOut⟩]
      requests := s.requests ++ [handle] })

/-- The delay of an idle callback, and whether its timeout sets it. -/
def idleDelay (timing : Timing) (timeout : Option Nat) : Nat × Bool :=
  match timeout with
  | none => (timing.idleDelay, false)
  | some timeout => if timeout < timing.idleDelay then (timeout, true) else (timing.idleDelay, false)

/-- Requests an idle callback. -/
def requestIdle (s : Scheduler) (timeout : Option Nat) (body : List Action) :
    CallbackHandle × Scheduler :=
  if s.timing.capabilities.idleCallback then
    let (delay, timedOut) := idleDelay s.timing timeout
    s.schedule .idle delay timedOut (some (s.now + delay + s.timing.idleBudget)) false body
  else s.schedule .idle 0 false (some (s.now + s.timing.idleBudget)) true body

/-- The time from a moment to the next frame boundary after it. The time since
the last boundary passes through 64 bits. -/
def frameDelay (interval now : Nat) : Nat := interval - (now % max interval 1) % wordLimit

/-- Requests a frame callback. -/
def requestFrame (s : Scheduler) (body : List Action) : CallbackHandle × Scheduler :=
  if s.timing.capabilities.animationFrame then
    s.schedule .frame (frameDelay s.timing.frameInterval s.now) false none false body
  else s.schedule .frame 0 false none true body

/-- Cancels a callback; whether it was pending. Its timer is disarmed; what has
fired stays in the queue and will find nothing to run. -/
def cancel (s : Scheduler) (handle : CallbackHandle) : Bool × Scheduler :=
  match Keyed.get? s.pending handle.id with
  | none => (false, s)
  | some entry =>
    (true,
      { s with
        pending := Keyed.erase s.pending handle.id
        timers := s.timers.filter fun t => !decide (t.request = entry.request) })

/-- Does one action. -/
def perform (s : Scheduler) (action : Action) : Answer × Scheduler :=
  match action with
  | .idle timeout body =>
    let (handle, s') := s.requestIdle timeout body
    (.requested s.requests.length handle, s')
  | .frame body =>
    let (handle, s') := s.requestFrame body
    (.requested s.requests.length handle, s')
  | .cancel request =>
    match s.requests[request]? with
    | none => (.cancelled none, s)
    | some handle =>
      let (done, s') := s.cancel handle
      (.cancelled (some done), s')
  | .pending => (.pending s.pendingCount, s)

/-- Does actions one after the other. -/
def performAll (s : Scheduler) : List Action → List Answer × Scheduler
  | [] => ([], s)
  | action :: rest =>
    let (answer, s) := s.perform action
    let (answers, s) := s.performAll rest
    (answer :: answers, s)

/-! ## Firing and draining -/

/-- Lets a timer fire. -/
def fire (s : Scheduler) (t : Timer) : Scheduler :=
  { s with
    timers := s.timers.filter fun other => !decide (other.request = t.request)
    fired := s.fired ++ [⟨t.id, t.timedOut⟩] }

/-- What a callback is told if it runs now. -/
def tickOf (s : Scheduler) (entry : PendingCallback) (timedOut : Bool) : Tick :=
  match entry.kind with
  | .idle =>
    let remaining := match entry.deadline with
      | none => s.timing.idleBudget
      | some deadline => deadline - s.now
    .idle (if timedOut then 0 else remaining) timedOut
  | .frame => .frame s.now

/-- Runs what an entry of the queue is for, if it is still pending. -/
def runFired (s : Scheduler) (fired : Fired) : Option Run × Scheduler :=
  match Keyed.get? s.pending fired.id with
  | none => (none, s)
  | some entry =>
    let tick := s.tickOf entry fired.timedOut
    let (answers, s) := { s with pending := Keyed.erase s.pending fired.id }.performAll entry.body
    (some ⟨entry.request, tick, answers⟩, s)

/-- Runs what the entries are for, one after the other. -/
def runAll (s : Scheduler) : List Fired → List Run × Scheduler
  | [] => ([], s)
  | fired :: rest =>
    let (run, s) := s.runFired fired
    let (runs, s) := s.runAll rest
    (run.toList ++ runs, s)

/-- Drains the queue as it stands. -/
def runDue (s : Scheduler) : List Run × Scheduler := { s with fired := [] }.runAll s.fired

end Scheduler

end PageHost
