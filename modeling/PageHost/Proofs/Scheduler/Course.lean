import Mathlib.Data.List.Induction
import PageHost.Scheduler.Clock
/-!
# The course of a scheduler

What happens to callbacks is written down as it happens, each time with the scheduler as
it is just before. A callback goes by the id of its handle. The owner of a scheduler
requests, cancels, counts and drains, and all but the last the callbacks do as well; between
what the owner does, time passes and timers fire in whatever order. Timers may also fire while
a drain is under way, between any two things that happen in it.

A drain is written down turn by turn: the turn of an entry of the queue either runs its
callback, and then everything that the callback does follows, or finds nothing to run. A
callback may choose what to do only when it runs; in any one course it then does one list of
actions, and since nobody looks at the list before, it may as well be given with the request.
-/

namespace PageHost.Scheduler

/-- Something that happens to the callbacks of a scheduler. -/
inductive Happening where
  /-- A callback is requested and gets this id. -/
  | requested (id : Nat)
  /-- A callback is cancelled, and whether that succeeds. -/
  | cancelled (id : Nat) (done : Bool)
  /-- The pending callbacks are counted. -/
  | counted (count : Nat)
  /-- A timer fires. -/
  | fired (id : Nat)
  /-- A drain starts: it takes the queue as it stands. -/
  | drains
  /-- The turn of an entry of the queue, and whether its callback runs. -/
  | turn (id : Nat) (runs : Bool)
  /-- A drain ends and returns how many callbacks ran. -/
  | returns (count : Nat)
deriving Repr, DecidableEq

namespace Happening

/-- The callback that is requested, if one is. -/
def requested? : Happening → Option Nat
  | .requested id => some id
  | _ => none

/-- The callback whose turn it is. -/
def turn? : Happening → Option Nat
  | .turn id _ => some id
  | _ => none

/-- The callback that runs. -/
def ran? : Happening → Option Nat
  | .turn id true => some id
  | _ => none

/-- The callback whose timer fires. -/
def fired? : Happening → Option Nat
  | .fired id => some id
  | _ => none

/-- What a drain returns that ends. -/
def returned? : Happening → Option Nat
  | .returns count => some count
  | _ => none

/-- The callbacks that are requested, in order. -/
def requestedIn (happenings : List Happening) : List Nat := happenings.filterMap requested?

/-- The callbacks whose turn it is, in order. -/
def turnsIn (happenings : List Happening) : List Nat := happenings.filterMap turn?

/-- The callbacks that run, in order. -/
def ranIn (happenings : List Happening) : List Nat := happenings.filterMap ran?

/-- The callbacks whose timers fire, in order. -/
def firedIn (happenings : List Happening) : List Nat := happenings.filterMap fired?

/-- The queue after one more happening. -/
def queueAfter (queue : List Nat) : Happening → List Nat
  | .fired id => queue ++ [id]
  | .drains => []
  | _ => queue

/-- What has fired since the last drain, in order. -/
def queued (happenings : List Happening) : List Nat := happenings.foldl queueAfter []

/-- Where a drain starts or ends. -/
def IsBound : Happening → Prop
  | .drains | .returns _ => True
  | _ => False

/-- What an action may do. -/
def IsDone : Happening → Prop
  | .requested _ | .cancelled _ _ | .counted _ => True
  | _ => False

/-- Only what has fired has a turn. -/
def Due (past : List Happening) (h : Happening) : Prop :=
  ∀ id, h.turn? = some id → .fired id ∈ past

variable (past later : List Happening) (h : Happening) (id : Nat)

/-- An id is among the requested ones when its request is recorded. -/
@[simp] theorem mem_requestedIn : id ∈ requestedIn past ↔ .requested id ∈ past := by
  simp only [requestedIn, List.mem_filterMap]
  constructor
  · rintro ⟨h, hm, hh⟩
    cases h with
    | requested other =>
      cases hh
      exact hm
    | _ => cases hh
  · exact fun hm => ⟨_, hm, rfl⟩

@[simp] theorem requestedIn_append :
    requestedIn (past ++ later) = requestedIn past ++ requestedIn later := List.filterMap_append

@[simp] theorem turnsIn_append : turnsIn (past ++ later) = turnsIn past ++ turnsIn later :=
  List.filterMap_append

@[simp] theorem ranIn_append : ranIn (past ++ later) = ranIn past ++ ranIn later :=
  List.filterMap_append

@[simp] theorem firedIn_append : firedIn (past ++ later) = firedIn past ++ firedIn later :=
  List.filterMap_append

@[simp] theorem requestedIn_singleton : requestedIn [h] = h.requested?.toList := by
  cases h <;> rfl

@[simp] theorem turnsIn_singleton : turnsIn [h] = h.turn?.toList := by
  cases h <;> rfl

@[simp] theorem ranIn_singleton : ranIn [h] = h.ran?.toList := by
  cases h with
  | turn id runs => cases runs <;> rfl
  | _ => rfl

@[simp] theorem firedIn_singleton : firedIn [h] = h.fired?.toList := by
  cases h <;> rfl

/-- The queue after one more happening. -/
@[simp] theorem queued_concat : queued (past ++ [h]) = queueAfter (queued past) h := by
  simp [queued]

/-- What is queued has fired. -/
theorem fired_of_mem_queued {past : List Happening} {id : Nat} (hq : id ∈ queued past) :
    .fired id ∈ past := by
  induction past using List.reverseRecOn with
  | nil => cases hq
  | append_singleton past h ih =>
    rw [queued_concat] at hq
    cases h with
    | fired other =>
      rcases List.mem_append.mp hq with hq | hq
      · exact List.mem_append_left _ (ih hq)
      · simp_all
    | drains => cases hq
    | _ => exact List.mem_append_left _ (ih hq)

end Happening

open Happening

/-- Something that happens, and the scheduler just before. -/
structure Moment where
  before : Scheduler
  what : Happening

/-- A scheduler and all that has happened to its callbacks. -/
structure Course where
  scheduler : Scheduler
  log : List Moment

/-- What happens at the moments of a list. -/
def whats (moments : List Moment) : List Happening := moments.map Moment.what

@[simp] theorem whats_append (log more : List Moment) :
    whats (log ++ more) = whats log ++ whats more := List.map_append

@[simp] theorem whats_cons (m : Moment) (log : List Moment) :
    whats (m :: log) = m.what :: whats log := rfl

@[simp] theorem whats_nil : whats [] = [] := rfl

/-- What an action does to the callbacks: nothing, if it cancels a request that was never made. -/
def happening? (s : Scheduler) (action : Action) : Option Happening :=
  match action, (s.perform action).1 with
  | .cancel request, .cancelled done =>
    (s.requests[request]?).bind fun handle => done.map (.cancelled handle.id)
  | _, .requested _ handle => some (.requested handle.id)
  | _, .pending count => some (.counted count)
  | _, .cancelled _ => none

/-- Whether a timer belongs to a request that was made. A timer may have been disarmed and
fire all the same, when it was already on its way. -/
def isKnown (s : Scheduler) (t : Timer) : Bool :=
  (s.requests[t.request]?).any fun handle => handle.id = t.id

namespace Course

/-- Before anything has happened. -/
def start (timing : Timing) : Course := ⟨.start timing, []⟩

/-- What has happened. -/
def past (c : Course) : List Happening := whats c.log

/-- Something happens, and leaves the scheduler as given. -/
def note (c : Course) (what : Happening) (next : Scheduler) : Course :=
  ⟨next, c.log ++ [⟨c.scheduler, what⟩]⟩

/-- A happening that is noted is the last of the past. -/
@[simp] theorem past_note (c : Course) (what : Happening) (next : Scheduler) :
    (c.note what next).past = c.past ++ [what] := by
  simp [past, note]

/-- Does an action. -/
def act (c : Course) (action : Action) : Course :=
  match c.scheduler.happening? action with
  | none => ⟨(c.scheduler.perform action).2, c.log⟩
  | some what => c.note what (c.scheduler.perform action).2

/-- Time passes. -/
def pass (c : Course) (nanos : Nat) : Course :=
  { c with scheduler := { c.scheduler with now := c.scheduler.now + nanos } }

/-- A timer fires, if there is a request that it belongs to. -/
def firing (c : Course) (t : Timer) : Course :=
  if c.scheduler.isKnown t then c.note (.fired t.id) (c.scheduler.fire t) else c

/-- Timers fire one after the other. -/
def firingAll (c : Course) (timers : List Timer) : Course := timers.foldl firing c

/-! In what follows `amid` says which timers fire in the middle of a drain: those that it gives
for the number of things that have happened. -/

/-- Does an action, after which timers fire. -/
def actAmid (amid : Nat → List Timer) (c : Course) (action : Action) : Course :=
  (c.act action).firingAll (amid c.log.length)

/-- Does actions one after the other. -/
def actAll (amid : Nat → List Timer) (c : Course) (actions : List Action) : Course :=
  actions.foldl (actAmid amid) c

/-- The turn of an entry of the queue. -/
def turn (amid : Nat → List Timer) (c : Course) (fired : Fired) : Course :=
  match Keyed.get? c.scheduler.pending fired.id with
  | none => (c.note (.turn fired.id false) c.scheduler).firingAll (amid c.log.length)
  | some entry =>
    actAll amid ((c.note (.turn fired.id true)
      { c.scheduler with pending := Keyed.erase c.scheduler.pending fired.id }).firingAll
        (amid c.log.length)) entry.body

/-- The turns of entries of the queue, one after the other. -/
def turns (amid : Nat → List Timer) (c : Course) (queue : List Fired) : Course :=
  queue.foldl (turn amid) c

/-- A drain. -/
def drain (amid : Nat → List Timer) (c : Course) : Course :=
  let started := (c.note .drains { c.scheduler with fired := [] }).firingAll (amid c.log.length)
  let drained := turns amid started c.scheduler.fired
  drained.note (.returns c.scheduler.runDue.1.length) drained.scheduler

end Course

/-- What may happen while the owner waits. -/
inductive Event where
  | action (action : Action)
  | time (nanos : Nat)
  | firing (t : Timer)

/-- What the owner may do, and what may happen between. -/
inductive Move where
  | event (event : Event)
  | drain (amid : Nat → List Timer)
  /-- The owner waits for a firing and drains; what happens while it waits, and in the middle of
  the drain. -/
  | tick (meanwhile : List Event) (amid : Nat → List Timer)

namespace Course

/-- An event happens. -/
def occur (c : Course) : Event → Course
  | .action action => c.act action
  | .time nanos => c.pass nanos
  | .firing t => c.firing t

/-- Events happen one after the other. -/
def occurAll (c : Course) (events : List Event) : Course := events.foldl occur c

/-- A tick: at once over when nothing is pending; else the owner waits, and drains once the
queue has an entry. A tick that finds none goes on waiting. -/
def tick (meanwhile : List Event) (amid : Nat → List Timer) (c : Course) : Course :=
  if c.scheduler.hasPending then
    if (c.occurAll meanwhile).scheduler.fired.isEmpty then c.occurAll meanwhile
    else (c.occurAll meanwhile).drain amid
  else c

/-- What a tick returns: 0 when nothing is pending; none while it waits; else what the drain at
its end returns, which is the last thing to happen in it. -/
def ticked? (meanwhile : List Event) (amid : Nat → List Timer) (c : Course) : Option Nat :=
  if c.scheduler.hasPending then
    ((c.tick meanwhile amid).past.drop (c.occurAll meanwhile).past.length).getLast?.bind returned?
  else some 0

/-- A move is made. -/
def move (c : Course) : Move → Course
  | .event event => c.occur event
  | .drain amid => c.drain amid
  | .tick meanwhile amid => c.tick meanwhile amid

/-- Moves are made one after the other. -/
def moveAll (c : Course) (moves : List Move) : Course := moves.foldl move c

end Course

/-! ## What can happen -/

/-- All that can happen to a scheduler. -/
inductive Happens : Scheduler → Happening → Scheduler → Prop where
  | requested {s : Scheduler} (kind : CallbackKind) (delay : Nat) (timedOut : Bool)
      (deadline : Option Nat) (degraded : Bool) (body : List Action) :
      Happens s (.requested s.nextId) (s.schedule kind delay timedOut deadline degraded body).2
  | refused {s : Scheduler} {handle : CallbackHandle} (hm : handle ∈ s.requests)
      (hp : Keyed.get? s.pending handle.id = none) : Happens s (.cancelled handle.id false) s
  | cancelled {s : Scheduler} {handle : CallbackHandle} {entry : PendingCallback}
      (hm : handle ∈ s.requests) (hp : Keyed.get? s.pending handle.id = some entry) :
      Happens s (.cancelled handle.id true)
        { s with
          pending := Keyed.erase s.pending handle.id
          timers := s.timers.filter fun t => !decide (t.request = entry.request) }
  | counted {s : Scheduler} : Happens s (.counted s.pendingCount) s
  | fired {s : Scheduler} {t : Timer} (hk : s.isKnown t) : Happens s (.fired t.id) (s.fire t)
  | drains {s : Scheduler} : Happens s .drains { s with fired := [] }
  | skipped {s : Scheduler} {id : Nat} (hp : Keyed.get? s.pending id = none) :
      Happens s (.turn id false) s
  | ran {s : Scheduler} {id : Nat} {entry : PendingCallback}
      (hp : Keyed.get? s.pending id = some entry) :
      Happens s (.turn id true) { s with pending := Keyed.erase s.pending id }
  | returns {s : Scheduler} {count : Nat} : Happens s (.returns count) s

/-- Requests are never forgotten. -/
theorem Happens.requests_mono {s next : Scheduler} {what : Happening}
    (h : Happens s what next) : s.requests <+: next.requests := by
  cases h with
  | requested => exact List.prefix_append _ _
  | _ => exact List.prefix_refl _

/-- What a request comes to. -/
theorem requestIdle_eq (s : Scheduler) (timeout : Option Nat) (body : List Action) :
    ∃ delay timedOut deadline degraded,
      s.requestIdle timeout body = s.schedule .idle delay timedOut deadline degraded body := by
  unfold requestIdle
  split
  · exact ⟨_, _, _, _, rfl⟩
  · exact ⟨_, _, _, _, rfl⟩

/-- A frame callback is scheduled with a delay that depends on the clock. -/
theorem requestFrame_eq (s : Scheduler) (body : List Action) :
    ∃ delay timedOut deadline degraded,
      s.requestFrame body = s.schedule .frame delay timedOut deadline degraded body := by
  unfold requestFrame
  split
  · exact ⟨_, _, _, _, rfl⟩
  · exact ⟨_, _, _, _, rfl⟩

namespace Course

/-- An action is a request, a cancellation or a count, or does nothing at all. -/
theorem act_cases (c : Course) (action : Action) :
    c.act action = c ∨ ∃ what next, Happens c.scheduler what next ∧ what.IsDone ∧
      c.act action = c.note what next := by
  cases action with
  | idle timeout body =>
    obtain ⟨delay, timedOut, deadline, degraded, he⟩ := c.scheduler.requestIdle_eq timeout body
    refine .inr ⟨_, _, .requested .idle delay timedOut deadline degraded body, trivial, ?_⟩
    simp only [act, happening?, perform, he]
    rfl
  | frame body =>
    obtain ⟨delay, timedOut, deadline, degraded, he⟩ := c.scheduler.requestFrame_eq body
    refine .inr ⟨_, _, .requested .frame delay timedOut deadline degraded body, trivial, ?_⟩
    simp only [act, happening?, perform, he]
    rfl
  | cancel request =>
    cases hr : c.scheduler.requests[request]? with
    | none => simp [act, happening?, perform, hr]
    | some handle =>
      have hm : handle ∈ c.scheduler.requests := List.mem_of_getElem? hr
      right
      cases hp : Keyed.get? c.scheduler.pending handle.id with
      | none =>
        refine ⟨_, _, .refused hm hp, trivial, ?_⟩
        simp [act, happening?, perform, hr, Scheduler.cancel, hp]
      | some entry =>
        refine ⟨_, _, .cancelled hm hp, trivial, ?_⟩
        simp [act, happening?, perform, hr, Scheduler.cancel, hp]
  | pending => exact .inr ⟨_, _, .counted, trivial, rfl⟩

/-- An action of a course does to the scheduler what the program does. -/
theorem act_scheduler (c : Course) (action : Action) :
    (c.act action).scheduler = (c.scheduler.perform action).2 := by
  unfold act
  split <;> rfl

end Course

end PageHost.Scheduler
