import PageHost.Proofs.Scheduler.Law
/-!
# The clock as a course

What the clock does is what may happen in a course: when it is moved, time passes and the
timers that are due fire, and its tick is a tick during which just that happens. The clock
stands still during a drain, so no timer fires in the middle of one. The law of scheduled callbacks,
which holds along every course, so holds of what the clock does.
-/

namespace PageHost.Scheduler

open Happening

variable {s : Scheduler} {t : Timer}

/-- Timers go on belonging to the requests that they belong to. -/
theorem isKnown_mono {next : Scheduler} (hk : s.isKnown t)
    (hp : s.requests <+: next.requests) : next.isKnown t := by
  rw [isKnown, Option.any_eq_true] at hk
  obtain ⟨handle, hr, hid⟩ := hk
  obtain ⟨more, hnext⟩ := hp
  have hlt : t.request < s.requests.length := (List.getElem?_eq_some_iff.mp hr).1
  rw [isKnown, ← hnext, List.getElem?_append_left hlt, hr]
  exact hid

/-- Every armed timer belongs to a request. -/
def Armed (s : Scheduler) : Prop := ∀ t ∈ s.timers, s.isKnown t

/-- Every armed timer belongs to a request after each happening. -/
theorem Happens.armed {next : Scheduler} {what : Happening} (h : Happens s what next)
    (ha : s.Armed) : next.Armed := by
  have hkeep : ∀ t ∈ s.timers, next.isKnown t :=
    fun t hm => isKnown_mono (ha t hm) h.requests_mono
  intro t hm
  cases h with
  | requested kind delay timedOut deadline degraded body =>
    rcases List.mem_append.mp hm with hm | hm
    · exact hkeep t hm
    · rw [List.mem_singleton.mp hm]
      simp [isKnown, schedule]
  | cancelled => exact hkeep t ((List.mem_filter.mp hm).1)
  | fired => exact hkeep t ((List.mem_filter.mp hm).1)
  | _ => exact hkeep t hm

/-- Every armed timer belongs to a request in a course that is reached. -/
theorem Reached.armed {c : Course} (hc : Reached c) : c.scheduler.Armed := by
  induction hc with
  | start => exact nofun
  | note _ h _ ih => exact h.armed ih
  | pass _ _ ih => exact ih

/-- Timers that belong to requests fire one after the other. -/
theorem occurAll_firings (c : Course) (timers : List Timer)
    (hk : ∀ t ∈ timers, c.scheduler.isKnown t) :
    (c.occurAll (timers.map .firing)).scheduler = c.scheduler.fireAll timers := by
  induction timers generalizing c with
  | nil => rfl
  | cons t rest ih =>
    have hfire : c.occur (.firing t) = c.note (.fired t.id) (c.scheduler.fire t) :=
      if_pos (hk t List.mem_cons_self)
    have hrest : ∀ other ∈ rest, (c.occur (.firing t)).scheduler.isKnown other := by
      intro other hm
      rw [hfire]
      exact hk other (List.mem_cons_of_mem _ hm)
    calc ((c.occur (.firing t)).occurAll (rest.map .firing)).scheduler
        = (c.occur (.firing t)).scheduler.fireAll rest := ih _ hrest
      _ = (c.scheduler.fire t).fireAll rest := by rw [hfire]; rfl

/-- What happens when the clock is moved: time passes, and what is due fires. -/
def clockwork (s : Scheduler) (nanos : Nat) : List Event :=
  .time nanos :: ({ s with now := s.now + nanos }.dueTimers.map .firing)

/-- To move the clock is to let time pass and timers fire. -/
theorem advance_eq_occurAll {c : Course} (hc : Reached c) (nanos : Nat) :
    c.scheduler.advance nanos = (c.occurAll (c.scheduler.clockwork nanos)).scheduler := by
  refine (occurAll_firings (c.pass nanos) _ fun t hm => ?_).symm
  have hdue := (List.mem_filter.mp (List.mem_mergeSort.mp hm)).1
  exact hc.armed t hdue

/-- A clock that is moved to where the next timer is due makes one fire. -/
theorem fired_advance_ne_nil {due : Nat} (hd : s.nextDue? = some due) :
    (s.advance (due - s.now)).fired ≠ [] := by
  obtain ⟨t, hm, rfl⟩ := List.mem_map.mp (List.min?_mem hd)
  have hdue : t ∈ { s with now := s.now + (t.due - s.now) }.dueTimers := by
    refine List.mem_mergeSort.mpr (List.mem_filter.mpr ⟨hm, ?_⟩)
    show decide (t.due ≤ s.now + (t.due - s.now)) = true
    rw [decide_eq_true_eq]
    omega
  have hfired := fired_fireAll { s with now := s.now + (t.due - s.now) }
    { s with now := s.now + (t.due - s.now) }.dueTimers
  intro hnil
  rw [show s.advance (t.due - s.now) = { s with now := s.now + (t.due - s.now) }.fireAll
    { s with now := s.now + (t.due - s.now) }.dueTimers from rfl, hfired] at hnil
  rw [List.map_eq_nil_iff.mp (List.append_eq_nil_iff.mp hnil).2] at hdue
  cases hdue

/-! ## Ticks -/

namespace Course

variable {c : Course}

/-- What a drain adds to what has happened. -/
theorem past_drain (hc : Reached c) (amid : Nat → List Timer) :
    ∃ during, (c.drain amid).past =
        c.past ++ .drains :: (during ++ [.returns c.scheduler.runDue.1.length]) ∧
      (∀ what ∈ during, ¬ what.IsBound) ∧ turnsIn during = queued c.past ∧
      (ranIn during).length = c.scheduler.runDue.1.length := by
  obtain ⟨_, -, -, during, hlog, hquiet, -, hturns, hran⟩ := c.drain_eq amid hc.named
  have hcount : (ranIn (whats during)).length = c.scheduler.runDue.1.length := by
    simpa using (congrArg List.length hran).symm
  exact ⟨whats during, by simp [past, hlog], List.forall_mem_map.mpr hquiet,
    hturns.trans hc.queue, hcount⟩

/-- A tick that drains returns how many callbacks the drain ran. -/
theorem ticked?_eq (hc : Reached c) (meanwhile : List Event) (amid : Nat → List Timer) :
    c.ticked? meanwhile amid =
      if c.scheduler.hasPending then
        if (c.occurAll meanwhile).scheduler.fired.isEmpty then none
        else some (c.occurAll meanwhile).scheduler.runDue.1.length
      else some 0 := by
  unfold ticked?
  split
  · next hpending =>
    rw [Course.tick, if_pos hpending]
    split
    · simp
    · obtain ⟨during, hpast, -⟩ := past_drain (hc.occurAll meanwhile) amid
      rw [hpast, List.drop_left, ← List.cons_append, List.getLast?_concat]
      rfl
  · rfl

end Course

/-- The clock's tick is a tick of the course, during which the clock moves as far as it must, and
it returns what that one returns. -/
theorem tick?_eq_tick {c : Course} (hc : Reached c) {runs : List Run} {next : Scheduler}
    (h : c.scheduler.tick? = some (runs, next)) :
    ∃ meanwhile, (c.tick meanwhile fun _ => []).scheduler = next ∧
      c.ticked? meanwhile (fun _ => []) = some runs.length := by
  have hdrain : ∀ events, (c.occurAll events).scheduler.runDue = (runs, next) →
      ((c.occurAll events).drain fun _ => []).scheduler = next := by
    intro events hrun
    rw [Course.drain_scheduler_of_calm (hc.occurAll events).named, hrun]
  have hticks : ∀ events, c.scheduler.hasPending = true →
      (c.occurAll events).scheduler.fired.isEmpty ≠ true →
      (c.occurAll events).scheduler.runDue = (runs, next) →
      (c.tick events fun _ => []).scheduler = next ∧
        c.ticked? events (fun _ => []) = some runs.length := by
    intro events hpending hfired hrun
    rw [Course.ticked?_eq hc, Course.tick, if_pos hpending, if_pos hpending, if_neg hfired,
      if_neg hfired, hrun]
    exact ⟨hdrain events hrun, rfl⟩
  unfold tick? at h
  split at h
  · next hpending =>
    obtain ⟨woken, hwait, hrun⟩ := Option.map_eq_some_iff.mp h
    unfold wait? at hwait
    split at hwait
    · obtain ⟨due, hdue, rfl⟩ := Option.map_eq_some_iff.mp hwait
      have hmax : max c.scheduler.now due = c.scheduler.now + (due - c.scheduler.now) := by omega
      have hadvance := advance_eq_occurAll hc (due - c.scheduler.now)
      have hfired := fired_advance_ne_nil hdue
      rw [hadvance] at hfired
      rw [advance, ← hmax] at hadvance
      rw [hadvance] at hrun
      exact ⟨c.scheduler.clockwork (due - c.scheduler.now),
        hticks _ hpending (by simpa using hfired) hrun⟩
    · next hfired =>
      obtain rfl := Option.some.inj hwait
      exact ⟨[], hticks [] hpending hfired hrun⟩
  · next hpending =>
    have hended := Option.some.inj h
    refine ⟨[], ?_, ?_⟩
    · rw [Course.tick, if_neg hpending]
      exact congrArg Prod.snd hended
    · have hruns : [] = runs := congrArg Prod.fst hended
      rw [Course.ticked?, if_neg hpending, ← hruns, List.length_nil]

/-- The clock's tick never ends when something is pending that no timer will wake it for. -/
theorem tick?_eq_none_iff (s : Scheduler) :
    s.tick? = none ↔ s.hasPending = true ∧ s.fired = [] ∧ s.timers = [] := by
  unfold tick? wait? nextDue?
  by_cases hpending : s.hasPending = true
  · by_cases hfired : s.fired = []
    · simp [hpending, hfired, List.min?_eq_none_iff]
    · simp [hpending, hfired]
  · simp [hpending]

/-- What the clock does, as moves of a course. -/
structure Clocked (c : Course) : Prop where
  /-- To move the clock is to let time pass and what is due fire. -/
  advance : ∀ nanos,
    c.scheduler.advance nanos = (c.occurAll (c.scheduler.clockwork nanos)).scheduler
  /-- Its tick is a tick, and returns how many callbacks that one ran. -/
  tick : ∀ runs next, c.scheduler.tick? = some (runs, next) →
    ∃ meanwhile, (c.tick meanwhile fun _ => []).scheduler = next ∧
      c.ticked? meanwhile (fun _ => []) = some runs.length
  /-- It does not end only if something is pending and nothing can wake it. -/
  waits : c.scheduler.tick? = none ↔
    c.scheduler.hasPending = true ∧ c.scheduler.fired = [] ∧ c.scheduler.timers = []

/-- The clock makes no other moves than those that a course can make. -/
theorem Reached.clocked {c : Course} (hc : Reached c) : Clocked c :=
  ⟨advance_eq_occurAll hc, fun _ _ h => tick?_eq_tick hc h, tick?_eq_none_iff c.scheduler⟩

/-! ## The law -/

/-- Every course of fewer than 2^32 - 1 requests is lawful, and what the clock does from there on
are moves of the course: it lets time pass and timers fire, and its tick is a tick. -/
theorem course_lawful (timing : Timing) (moves : List Move)
    (hfew : ((Course.start timing).moveAll moves).scheduler.requests.length < 4294967295) :
    Lawful ((Course.start timing).moveAll moves) ∧
      Clocked ((Course.start timing).moveAll moves) := by
  have hstart : (Course.start timing).Drained := fun past s rest hl => by simp [Course.start] at hl
  obtain ⟨hc, hd⟩ := (Reached.start timing).moveAll hstart moves
  refine ⟨⟨hc.moments hfew, hc.inStep hfew, fun past s rest hl => ?_⟩, hc.clocked⟩
  obtain ⟨during, timers, later, rfl, hquiet, hfired, hturns, hran⟩ := hd past s rest hl
  have hin : InStep (whats past) s := (hc.moments hfew past _ _ hl).1
  rw [hin.queue] at hturns
  have hlen : s.runDue.1.length = (ranIn (whats during)).length := by
    simpa using congrArg List.length hran
  exact ⟨during, timers, later, rfl, hquiet, hfired, hturns, hran, hlen,
    fun id => not_mem_turnsIn_of_requested hc hfew hl hturns⟩

/-- Callback 1 requests a fourth one, cancels callback 2 and counts, and the timer of the fourth
fires right after its request, in the middle of the drain that runs the first three; then a tick
runs the fourth. -/
def crowdedTour : List Move :=
  [.event (.action (.idle none [.frame [], .cancel 1, .pending])),
    .event (.action (.frame [])), .event (.action (.idle (some 0) [])),
    .event (.firing ⟨0, 0, 1, false⟩), .event (.firing ⟨0, 1, 2, false⟩),
    .event (.firing ⟨0, 2, 3, true⟩), .drain fun n => if n = 8 then [⟨0, 3, 4, false⟩] else [],
    .event (.action (.cancel 0)), .tick [.time 20] fun _ => []]

/-- The course of a crowded drain and the tick after it. -/
theorem course_lawful_crowded :
    ((Course.start ⟨16, 5, 50, ⟨true, true⟩⟩).moveAll crowdedTour).scheduler.requests.length
      < 4294967295 ∧
    ((Course.start ⟨16, 5, 50, ⟨true, true⟩⟩).moveAll crowdedTour).past =
      [.requested 1, .requested 2, .requested 3, .fired 1, .fired 2, .fired 3, .drains,
        .turn 1 true, .requested 4, .fired 4, .cancelled 2 true, .counted 2, .turn 2 false,
        .turn 3 true, .returns 2, .cancelled 1 false, .drains, .turn 4 true, .returns 1] ∧
    Lawful ((Course.start ⟨16, 5, 50, ⟨true, true⟩⟩).moveAll crowdedTour) ∧
    Clocked ((Course.start ⟨16, 5, 50, ⟨true, true⟩⟩).moveAll crowdedTour) := by
  have hfew : ((Course.start ⟨16, 5, 50, ⟨true, true⟩⟩).moveAll
      crowdedTour).scheduler.requests.length < 4294967295 := by decide
  exact ⟨hfew, by decide, course_lawful _ _ hfew⟩

end PageHost.Scheduler
