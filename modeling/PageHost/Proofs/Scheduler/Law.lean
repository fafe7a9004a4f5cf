import PageHost.Proofs.Scheduler.Drain
import PageHost.Proofs.Scheduler.Lifecycle
/-!
# The law of scheduled callbacks

However the owner of a scheduler and the callbacks themselves request, cancel, count, wait
and drain, and in whatever order timers fire: each callback is at one stage at a time, runs
at most once, after its timer fired and not after its cancellation, and each drain runs what
had fired when it started and is still pending when its turn comes. What fires in the middle
of a drain waits for the next one.
-/

namespace PageHost.Scheduler

open Happening

/-- The courses that are made of single happenings. Every course of moves is one of these, and
so is what has come about in the middle of a drain. -/
inductive Reached : Course → Prop where
  | start (timing : Timing) : Reached (.start timing)
  | note {c : Course} {what : Happening} {next : Scheduler} (hc : Reached c)
      (h : Happens c.scheduler what next) (hd : Due c.past what) : Reached (c.note what next)
  | pass {c : Course} (hc : Reached c) (nanos : Nat) : Reached (c.pass nanos)

namespace Reached

variable {c : Course}

/-! ## What holds of every reached course -/

/-- In a course that is reached the queue holds what has fired since the last drain. -/
theorem queue (hc : Reached c) : c.scheduler.fired.map (·.id) = queued c.past := by
  induction hc with
  | start => rfl
  | note _ h _ ih =>
    rw [Course.past_note]
    exact h.queue ih
  | pass _ _ ih => exact ih

/-- In a course that is reached pending callbacks belong to requests. -/
theorem named (hc : Reached c) : Named c.scheduler := by
  induction hc with
  | start => exact nofun
  | note _ h _ ih => exact h.named ih
  | pass _ _ ih => exact ih

/-- In a course with few requests the scheduler keeps track of the past. -/
theorem tracks (hc : Reached c) (hfew : Few c.scheduler) : Tracks c.past c.scheduler := by
  induction hc with
  | start timing => exact ⟨rfl, rfl, rfl, Keyed.distinct_nil, by simp [Course.start,
      Course.past, Scheduler.start, Keyed.has], nofun, by simp [Course.start, Course.past]⟩
  | note _ h _ ih =>
    rw [Course.past_note]
    exact (ih (h.few hfew)).step h hfew
  | pass _ nanos ih => exact { ih hfew with }

/-- In a course with few requests the scheduler is in step with the past. -/
theorem inStep (hc : Reached c) (hfew : Few c.scheduler) : InStep c.past c.scheduler :=
  (hc.tracks hfew).inStep hc.queue

/-- At each moment the scheduler is in step with what happened before, and what happens next is
allowed. -/
theorem moments (hc : Reached c) (hfew : Few c.scheduler) :
    ∀ past m later, c.log = past ++ m :: later →
      InStep (whats past) m.before ∧ Allowed (whats past) m.before m.what := by
  induction hc with
  | start => exact fun past m later hl => by simp [Course.start] at hl
  | @note c what next hc h hd ih =>
    intro past m later hl
    rcases split_append hl with ⟨more, hold, -⟩ | ⟨more, rfl, hnew⟩
    · exact ih (h.few hfew) past m more hold
    · obtain ⟨rfl, hm⟩ | ⟨-, hm⟩ := List.append_eq_singleton_iff.mp hnew.symm
      · obtain rfl := (List.cons.inj hm).1
        rw [List.append_nil]
        have ht := hc.tracks (h.few hfew)
        exact ⟨ht.inStep hc.queue, ht.allowed h hd⟩
      · cases hm
  | pass _ nanos ih => exact ih hfew

/-! ## Moves -/

variable {amid : Nat → List Timer}

theorem act (hc : Reached c) (action : Action) : Reached (c.act action) := by
  obtain he | ⟨what, next, h, hdone, he⟩ := c.act_cases action
  · rwa [he]
  · rw [he]
    refine hc.note h fun id hturn => ?_
    cases what with
    | turn => exact hdone.elim
    | _ => cases hturn

theorem firing (hc : Reached c) (t : Timer) : Reached (c.firing t) := by
  unfold Course.firing
  split
  · next hk => exact hc.note (.fired hk) (by rintro id ⟨⟩)
  · exact hc

theorem firingAll (hc : Reached c) (timers : List Timer) : Reached (c.firingAll timers) := by
  induction timers generalizing c with
  | nil => exact hc
  | cons t rest ih => exact ih (hc.firing t)

theorem actAll (hc : Reached c) (actions : List Action) : Reached (c.actAll amid actions) := by
  induction actions generalizing c with
  | nil => exact hc
  | cons action rest ih => exact ih ((hc.act action).firingAll (amid c.log.length))

/-- The turn of a callback that has fired leads to a course that is reached. -/
theorem turn (hc : Reached c) (fired : Fired) (hf : .fired fired.id ∈ c.past) :
    Reached (c.turn amid fired) := by
  have hd : ∀ runs, Due c.past (.turn fired.id runs) := by
    rintro runs id ⟨⟩
    exact hf
  unfold Course.turn
  split
  · next hp => exact (hc.note (.skipped hp) (hd false)).firingAll _
  · next entry hp => exact ((hc.note (.ran hp) (hd true)).firingAll _).actAll entry.body

theorem turns (hc : Reached c) (queue : List Fired)
    (hf : ∀ fired ∈ queue, .fired fired.id ∈ c.past) : Reached (c.turns amid queue) := by
  induction queue generalizing c with
  | nil => exact hc
  | cons fired rest ih =>
    obtain ⟨_, _, hg, -⟩ := (Course.Trails.refl amid c).turn fired
    exact ih (hc.turn fired (hf fired List.mem_cons_self)) fun other hm =>
      hg.mem_past (hf other (List.mem_cons_of_mem _ hm))

/-- A drain leads to a course that is reached. -/
theorem drain (hc : Reached c) (amid : Nat → List Timer) : Reached (c.drain amid) := by
  have hnote : Reached (c.note .drains { c.scheduler with fired := [] }) :=
    hc.note .drains (by rintro id ⟨⟩)
  obtain ⟨_, -, hg, -⟩ := (c.note .drains { c.scheduler with fired := [] }).firingAll_grows
    (amid c.log.length)
  refine ((hnote.firingAll _).turns c.scheduler.fired fun fired hm => hg.mem_past ?_).note .returns
    (by rintro id ⟨⟩)
  rw [Course.past_note]
  refine List.mem_append_left _ (fired_of_mem_queued ?_)
  rw [← hc.queue]
  exact List.mem_map_of_mem hm

theorem occur (hc : Reached c) (event : Event) : Reached (c.occur event) :=
  match event with
  | .action action => hc.act action
  | .time nanos => hc.pass nanos
  | .firing t => hc.firing t

theorem occurAll (hc : Reached c) (events : List Event) : Reached (c.occurAll events) := by
  induction events generalizing c with
  | nil => exact hc
  | cons event rest ih => exact ih (hc.occur event)

/-- A tick leads to a course that is reached. -/
theorem tick (hc : Reached c) (meanwhile : List Event) (amid : Nat → List Timer) :
    Reached (c.tick meanwhile amid) := by
  have hwait := hc.occurAll meanwhile
  unfold Course.tick
  split
  · split
    · exact hwait
    · exact hwait.drain amid
  · exact hc

theorem move (hc : Reached c) (move : Move) : Reached (c.move move) :=
  match move with
  | .event event => hc.occur event
  | .drain amid => hc.drain amid
  | .tick meanwhile amid => hc.tick meanwhile amid

/-- The drains of a course stay those of the program with every move. -/
theorem move_drained (hc : Reached c) (hd : c.Drained) (move : Move) : (c.move move).Drained := by
  cases move with
  | event event =>
    obtain ⟨_, hg⟩ := c.occur_grows event
    exact hd.grows hg
  | drain amid => exact hd.drain hc.named amid
  | tick meanwhile amid =>
    obtain ⟨_, hg⟩ := c.occurAll_grows meanwhile
    have hwait := hd.grows hg
    simp only [Course.move, Course.tick]
    split
    · split
      · exact hwait
      · exact hwait.drain (hc.occurAll meanwhile).named amid
    · exact hd

/-- Moves lead to a course that is reached and whose drains are those of the program. -/
theorem moveAll (hc : Reached c) (hd : c.Drained) (moves : List Move) :
    Reached (c.moveAll moves) ∧ (c.moveAll moves).Drained := by
  induction moves generalizing c with
  | nil => exact ⟨hc, hd⟩
  | cons first rest ih => exact ih (hc.move first) (hc.move_drained hd first)

end Reached

/-- The law of scheduled callbacks, for all that a course has seen. -/
structure Lawful (c : Course) : Prop where
  /-- At each moment each callback is at one stage, and what happens is allowed. -/
  moments : ∀ past m later, c.log = past ++ m :: later →
    InStep (whats past) m.before ∧ Allowed (whats past) m.before m.what
  present : InStep c.past c.scheduler
  /-- Each drain gives what had fired when it started one turn, in this order, returns how many
  callbacks ran, and runs none that is requested meanwhile. It ends where `runDue` and then the
  timers lead that fired in the middle of it. -/
  drains : ∀ past s rest, c.log = past ++ ⟨s, .drains⟩ :: rest →
    ∃ during timers later, rest =
        during ++ ⟨s.runDue.2.fireAll timers, .returns s.runDue.1.length⟩ :: later ∧
      (∀ m ∈ during, ¬ m.what.IsBound) ∧
      timers.map (·.id) = firedIn (whats during) ∧
      turnsIn (whats during) = queued (whats past) ∧
      s.runDue.1.map s.runDue.2.idOf = (ranIn (whats during)).map some ∧
      s.runDue.1.length = (ranIn (whats during)).length ∧
      ∀ id, .requested id ∈ whats during → id ∉ turnsIn (whats during)

/-- What is requested during a drain has no turn in it: all that has a turn had fired before, and
what had fired had been requested before. The firing has its moment before the drain, the request
one in the drain, and requests have distinct ids. -/
theorem not_mem_turnsIn_of_requested {c : Course} (hc : Reached c) (hfew : Few c.scheduler)
    {past during later : List Moment} {s : Scheduler}
    (hl : c.log = past ++ ⟨s, .drains⟩ :: (during ++ later))
    (hturns : turnsIn (whats during) = queued (whats past)) {id : Nat}
    (hr : .requested id ∈ whats during) : id ∉ turnsIn (whats during) := by
  intro hturn
  rw [hturns] at hturn
  obtain ⟨fire, hm, hfire⟩ := List.mem_map.mp (fired_of_mem_queued hturn)
  obtain ⟨early, late, rfl⟩ := List.append_of_mem hm
  have hold : Allowed (whats early) fire.before fire.what :=
    (hc.moments hfew early fire _ (by rw [hl, List.append_assoc]; rfl)).2
  rw [hfire] at hold
  obtain ⟨request, hm, hrequest⟩ := List.mem_map.mp hr
  obtain ⟨soon, rest, rfl⟩ := List.append_of_mem hm
  have hnew : Allowed (whats ((early ++ fire :: late) ++ ⟨s, .drains⟩ :: soon)) request.before
      request.what := (hc.moments hfew _ request (rest ++ later) (by simp [hl])).2
  rw [hrequest] at hnew
  refine hnew ?_
  rw [whats_append, whats_append]
  exact List.mem_append_left _ (List.mem_append_left _ hold)

end PageHost.Scheduler
