import PageHost.Proofs.Scheduler.Clock
/-!
# Ticks and stale firings

A tick that finds something pending waits until the queue has an entry, and drains. The entry
may be stale: its callback was cancelled after its timer had fired. A drain that finds stale
entries only runs nothing, and the tick returns 0 although the callback that it was to wait
for is still pending.

Each firing has one turn, in the order of the firings. So when each timer fires at most once,
the stale entries are those whose callbacks were cancelled.
-/

namespace PageHost.Scheduler

open Happening

/-! ## Drains of stale entries -/

/-- An entry of the queue is stale when its callback is not pending. -/
def Stale (s : Scheduler) (id : Nat) : Prop := Keyed.has s.pending id = false

/-- A stale entry has its turn and runs nothing. -/
theorem runFired_of_stale {s : Scheduler} {fired : Fired} (h : s.Stale fired.id) :
    s.runFired fired = (none, s) := by
  have hp : Keyed.get? s.pending fired.id = none := by simpa [Stale, Keyed.has] using h
  simp [runFired, hp]

/-- An entry that is not stale runs its callback. -/
theorem exists_runFired_of_not_stale {s : Scheduler} {fired : Fired} (h : ¬ s.Stale fired.id) :
    ∃ run, (s.runFired fired).1 = some run := by
  have hp : Keyed.get? s.pending fired.id ≠ none := by simpa [Stale, Keyed.has] using h
  obtain ⟨entry, hentry⟩ := Option.ne_none_iff_exists'.mp hp
  simp [runFired, hentry]

/-- Nothing runs if every entry is stale, and only then: the first that is not still has its
callback when its turn comes. -/
theorem runAll_eq_nil_iff (s : Scheduler) (queue : List Fired) :
    (s.runAll queue).1 = [] ↔ ∀ fired ∈ queue, s.Stale fired.id := by
  induction queue generalizing s with
  | nil => simp [runAll]
  | cons fired rest ih =>
    by_cases hstale : s.Stale fired.id
    · simp [runAll, runFired_of_stale hstale, ih, hstale]
    · obtain ⟨run, hrun⟩ := exists_runFired_of_not_stale hstale
      simp [runAll, hrun, hstale]

/-- A drain runs nothing if the queue holds stale entries only. -/
theorem runDue_eq_nil_iff (s : Scheduler) :
    s.runDue.1 = [] ↔ ∀ id ∈ s.fired.map (·.id), s.Stale id := by
  rw [runDue, runAll_eq_nil_iff]
  simp [Stale]

/-- The clock's tick runs nothing when nothing is pending, and when what it wakes to is stale. -/
theorem tick?_eq_nil_iff {s next : Scheduler} {runs : List Run}
    (h : s.tick? = some (runs, next)) :
    runs = [] ↔ s.hasPending = false ∨
      ∃ woken, s.wait? = some woken ∧ ∀ id ∈ woken.fired.map (·.id), woken.Stale id := by
  unfold tick? at h
  split at h
  · next hpending =>
    obtain ⟨woken, hwait, hrun⟩ := Option.map_eq_some_iff.mp h
    have hruns : woken.runDue.1 = runs := congrArg Prod.fst hrun
    simp only [hpending, hwait, ← hruns, runDue_eq_nil_iff, Option.some.injEq,
      exists_eq_left', Bool.true_eq_false, false_or]
  · next hpending =>
    have hruns : [] = runs := congrArg Prod.fst (Option.some.inj h)
    simp [← hruns, hpending]

/-! ## Each firing has its turn -/

/-- What fires between drains joins the queue. -/
theorem Happening.queued_append {past more : List Happening} (hquiet : ∀ h ∈ more, ¬ h.IsBound) :
    queued (past ++ more) = queued past ++ firedIn more := by
  induction more using List.reverseRecOn with
  | nil => simp [firedIn]
  | append_singleton more h ih =>
    rw [← List.append_assoc, queued_concat, ih fun h hm => hquiet h (List.mem_append_left _ hm),
      firedIn_append, firedIn_singleton, ← List.append_assoc]
    cases h with
    | fired id => rfl
    | drains => exact absurd trivial (hquiet .drains (by simp))
    | _ => exact (List.append_nil _).symm

namespace Course

variable {c next : Course}

/-- Each firing had its turn or is in the queue, in the order of the firings. -/
def Served (c : Course) : Prop := firedIn c.past = turnsIn c.past ++ queued c.past

/-- Firings stay served as long as no turn is taken. -/
theorem Served.grows {ran fired : List Nat} (hs : c.Served) (h : c.Grows next [] ran fired) :
    next.Served := by
  obtain ⟨more, hl, hquiet, hturns, -, -⟩ := h.log
  have hpast : next.past = c.past ++ whats more := by simp [past, hl]
  have hquiet' : ∀ what ∈ whats more, ¬ what.IsBound := List.forall_mem_map.mpr hquiet
  rw [Served, hpast, firedIn_append, turnsIn_append, queued_append hquiet', hturns, hs]
  simp

/-- A drain runs as many callbacks as it returns. -/
theorem length_ranIn_drain (hc : Reached c) (amid : Nat → List Timer) :
    (ranIn (c.drain amid).past).length =
      (ranIn c.past).length + c.scheduler.runDue.1.length := by
  obtain ⟨during, hpast, -, -, hcount⟩ := past_drain hc amid
  simp [hpast, ranIn, List.filterMap_cons, ran?, ← hcount]

/-- Firings are served by a drain. -/
theorem Served.drain (hs : c.Served) (hc : Reached c) (amid : Nat → List Timer) :
    (c.drain amid).Served := by
  obtain ⟨during, hpast, hquiet, hturns, -⟩ := past_drain hc amid
  have hqueue : queued (c.drain amid).past = firedIn during := by
    have hstart : queued (c.past ++ [.drains]) = [] := queued_concat _ _
    calc queued (c.drain amid).past
        = queued ((c.past ++ [.drains]) ++ during ++ [.returns c.scheduler.runDue.1.length]) := by
          simp [hpast]
      _ = queued ((c.past ++ [.drains]) ++ during) := queued_concat _ _
      _ = firedIn during := by rw [queued_append hquiet, hstart, List.nil_append]
  have hfired : firedIn (c.drain amid).past = firedIn c.past ++ firedIn during := by
    simp [hpast, firedIn, List.filterMap_cons, fired?]
  have hturned : turnsIn (c.drain amid).past = turnsIn c.past ++ turnsIn during := by
    simp [hpast, turnsIn, List.filterMap_cons, turn?]
  rw [Served, hqueue, hfired, hturned, hturns, hs]

theorem Served.occurAll (hs : c.Served) (events : List Event) : (c.occurAll events).Served := by
  obtain ⟨_, hg⟩ := c.occurAll_grows events
  exact hs.grows hg

/-- Firings stay served over every move. -/
theorem Served.move (hs : c.Served) (hc : Reached c) (move : Move) : (c.move move).Served := by
  cases move with
  | event event => exact hs.occurAll [event]
  | drain amid => exact hs.drain hc amid
  | tick meanwhile amid =>
    have hwait := hs.occurAll meanwhile
    simp only [Course.move, Course.tick]
    split
    · split
      · exact hwait
      · exact hwait.drain (hc.occurAll meanwhile) amid
    · exact hs

theorem Served.moveAll (hs : c.Served) (hc : Reached c) (moves : List Move) :
    (c.moveAll moves).Served := by
  induction moves generalizing c with
  | nil => exact hs
  | cons first rest ih => exact ih (hs.move hc first) (hc.move first)

/-- Where each timer fired at most once, the stale entries of the queue are those whose callbacks
were cancelled: the one firing of an entry is in the queue, so it has had no turn. -/
theorem Served.stale_iff (hs : c.Served) (ht : Tracks c.past c.scheduler)
    (honce : (firedIn c.past).Nodup) {id : Nat} (hq : id ∈ queued c.past) :
    c.scheduler.Stale id ↔ .cancelled id true ∈ c.past := by
  have hrequested : .requested id ∈ c.past := ht.known id (.inl (fired_of_mem_queued hq))
  have hran : .turn id true ∉ c.past := by
    intro hturn
    have hturned : id ∈ turnsIn c.past := List.mem_filterMap.mpr ⟨_, hturn, rfl⟩
    rw [hs] at honce
    exact (List.nodup_append.mp honce).2.2 id hturned id hq rfl
  have hpending := ht.pending id
  rw [Stale, ← Bool.not_eq_true, hpending]
  tauto

end Course

/-! ## Cancellations -/

/-- Whether an event cancels callbacks. -/
def Event.Cancels : Event → Prop
  | .action (.cancel _) => True
  | _ => False

/-- An action that is no cancellation cancels nothing. -/
theorem happening?_ne_cancelled (s : Scheduler) {action : Action}
    (h : ¬ (Event.action action).Cancels) (id : Nat) (done : Bool) :
    s.happening? action ≠ some (.cancelled id done) := by
  cases action with
  | cancel request => exact absurd trivial h
  | _ => simp [happening?, perform]

namespace Course

/-- An event that is no cancellation records none. -/
theorem cancelled_mem_occur (c : Course) {event : Event} (h : ¬ event.Cancels) (id : Nat)
    (done : Bool) : .cancelled id done ∈ (c.occur event).past ↔ .cancelled id done ∈ c.past := by
  cases event with
  | action action =>
    have hne := c.scheduler.happening?_ne_cancelled h id done
    simp only [occur, act]
    split
    · rfl
    · next what hwhat =>
      rw [hwhat] at hne
      have hother : .cancelled id done ≠ what := fun he => hne (congrArg some he.symm)
      simp [hother]
  | time nanos => rfl
  | firing t =>
    simp only [occur, firing]
    split
    · simp
    · rfl

/-- What was cancelled stays the same while nothing is cancelled. -/
theorem cancelled_mem_occurAll (c : Course) {events : List Event}
    (h : ∀ event ∈ events, ¬ event.Cancels) (id : Nat) (done : Bool) :
    .cancelled id done ∈ (c.occurAll events).past ↔ .cancelled id done ∈ c.past := by
  induction events generalizing c with
  | nil => rfl
  | cons event rest ih =>
    have hrest := ih (c.occur event) fun other hm => h other (List.mem_cons_of_mem _ hm)
    exact hrest.trans (c.cancelled_mem_occur (h event List.mem_cons_self) id done)

end Course

/-! ## When a tick runs nothing -/

/-- What runs runs in drains, not while the owner waits. -/
theorem Course.ranIn_occurAll (c : Course) (events : List Event) :
    ranIn (c.occurAll events).past = ranIn c.past := by
  obtain ⟨_, hg⟩ := c.occurAll_grows events
  obtain ⟨more, hl, -, -, hran, -⟩ := hg.log
  simp [past, hl, hran]

/-- A tick returns how many callbacks it ran. It returns 0 when nothing is pending, and when the
entries on which it wakes are all stale, whatever else is pending; and never otherwise. As long
as ids have not started over and no timer fires twice, these entries are the firings of callbacks
that were cancelled, all of them before the tick if none is cancelled while it waits. The clock's
own tick runs nothing under the same condition, on the entries on which the clock wakes it. -/
theorem tick_returns_zero_iff (timing : Timing) (moves : List Move) (meanwhile : List Event)
    (amid : Nat → List Timer) {c : Course} {count : Nat}
    (hc : (Course.start timing).moveAll moves = c) (hr : c.ticked? meanwhile amid = some count) :
    (ranIn (c.tick meanwhile amid).past).length = (ranIn c.past).length + count ∧
    (count = 0 ↔ c.scheduler.hasPending = false ∨
      ∀ id ∈ queued (c.occurAll meanwhile).past, (c.occurAll meanwhile).scheduler.Stale id) ∧
    (Few (c.occurAll meanwhile).scheduler → (firedIn (c.occurAll meanwhile).past).Nodup →
      (∀ event ∈ meanwhile, ¬ event.Cancels) →
      (count = 0 ↔ c.scheduler.hasPending = false ∨
        ∀ id ∈ queued (c.occurAll meanwhile).past, .cancelled id true ∈ c.past)) ∧
    ∀ runs next, c.scheduler.tick? = some (runs, next) →
      (runs = [] ↔ c.scheduler.hasPending = false ∨
        ∃ woken, c.scheduler.wait? = some woken ∧
          ∀ id ∈ woken.fired.map (·.id), woken.Stale id) := by
  have hclock : ∀ runs next, c.scheduler.tick? = some (runs, next) →
      (runs = [] ↔ c.scheduler.hasPending = false ∨
        ∃ woken, c.scheduler.wait? = some woken ∧
          ∀ id ∈ woken.fired.map (·.id), woken.Stale id) := fun _ _ => tick?_eq_nil_iff
  have hstart : (Course.start timing).Drained := fun past s rest hl => by simp [Course.start] at hl
  have hreached : Reached c := hc ▸ ((Reached.start timing).moveAll hstart moves).1
  have hnone : (Course.start timing).Served := rfl
  have hserved : c.Served := hc ▸ hnone.moveAll (.start timing) moves
  rw [Course.ticked?_eq hreached] at hr
  cases hpending : c.scheduler.hasPending with
  | false =>
    obtain rfl : 0 = count := by simpa [hpending] using hr
    rw [hpending] at hclock
    simpa [Course.tick, hpending] using hclock
  | true =>
    have hwoken : Reached (c.occurAll meanwhile) := hreached.occurAll meanwhile
    rw [if_pos hpending] at hr
    split at hr
    · cases hr
    · next hfired =>
      obtain rfl := Option.some.inj hr
      have hzero : (c.occurAll meanwhile).scheduler.runDue.1.length = 0 ↔
          ∀ id ∈ queued (c.occurAll meanwhile).past,
            (c.occurAll meanwhile).scheduler.Stale id := by
        rw [List.length_eq_zero_iff, runDue_eq_nil_iff, hwoken.queue]
      refine ⟨?_, by simp [hzero], fun hfew honce hcalm => ?_, hpending ▸ hclock⟩
      · rw [Course.tick, if_pos hpending, if_neg hfired, Course.length_ranIn_drain hwoken,
          c.ranIn_occurAll]
      · have hcancelled : ∀ id ∈ queued (c.occurAll meanwhile).past,
            ((c.occurAll meanwhile).scheduler.Stale id ↔ .cancelled id true ∈ c.past) := by
          intro id hq
          rw [(hserved.occurAll meanwhile).stale_iff (hwoken.tracks hfew) honce hq,
            c.cancelled_mem_occurAll hcalm]
        rw [hzero, forall₂_congr hcancelled]
        simp

/-- An idle callback is requested and then a frame; the first fires, and is cancelled before it
runs. -/
def staleTour : List Move :=
  [.event (.action (.idle none [])), .event (.action (.frame [])), .event (.time 5000000),
    .event (.firing ⟨1000000, 0, 1, false⟩), .event (.action (.cancel 0))]

/-- Where that leads on a host that is not configured. -/
def staleCourse : Course := (Course.start (.ofConfig .default)).moveAll staleTour

/-- The frame fires as well. -/
def lateFrame : List Move := [.event (.time 11000000), .event (.firing ⟨16000000, 1, 2, false⟩)]

/-- Once the frame has fired as well a tick runs it, for not all of the queue was cancelled. -/
theorem tick_returns_one_beside_stale :
    queued (staleCourse.moveAll lateFrame).past = [1, 2] ∧
    (staleCourse.moveAll lateFrame).ticked? [] (fun _ => []) = some 1 ∧
    ¬ ∀ id ∈ queued (staleCourse.moveAll lateFrame).past,
      .cancelled id true ∈ (staleCourse.moveAll lateFrame).past := by
  have hr : (staleCourse.moveAll lateFrame).ticked? [] (fun _ => []) = some 1 := by decide
  have hfew : (staleCourse.moveAll lateFrame).scheduler.requests.length < 4294967295 := by decide
  have hzero := (tick_returns_zero_iff (.ofConfig .default) (staleTour ++ lateFrame) [] _ rfl
    hr).2.2.1 hfew (by decide) nofun
  exact ⟨by decide, hr, fun hall => Nat.one_ne_zero (hzero.mpr (.inr hall))⟩

/-- The frame is pending when the tick is called, and nothing is cancelled while it waits, for it
does not wait at all; yet it returns 0, and the frame is still pending. -/
theorem tick_returns_zero_beside_frame :
    staleCourse.scheduler.pendingCount = 1 ∧
    staleCourse.ticked? [] (fun _ => []) = some 0 ∧
    (staleCourse.tick [] fun _ => []).scheduler.pendingCount = 1 ∧
    staleCourse.scheduler.tick?.map (fun ticked => (ticked.1.length, ticked.2.pendingCount)) =
      some (0, 1) := by
  decide

end PageHost.Scheduler
