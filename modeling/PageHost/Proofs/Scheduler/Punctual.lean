import PageHost.Proofs.Scheduler.Diary
/-!
# When callbacks run

A callback that runs on the firing of its own timer runs on time: not before the delay of its
request is over, a frame callback not before the next frame boundary, and an idle callback is told
how much of its budget is left. When ids have started over, a firing that was left in the queue may
be that of an older request under the same id. What runs on it may run too early.
-/

namespace PageHost.Scheduler

/-- How long an idle callback waits at least. -/
def idleWait (timing : Timing) (timeout : Option Nat) : Nat :=
  if timing.capabilities.idleCallback then min (timeout.getD timing.idleDelay) timing.idleDelay
  else 0

/-- What an idle callback may rely on, by the time of its request and the time when it runs. -/
structure IdleOnTime (timing : Timing) (timeout : Option Nat) (made moment remaining : Nat)
    (didTimeout : Bool) : Prop where
  notEarly : made + idleWait timing timeout ≤ moment
  /-- The timeout is the reason to run if it is shorter than the delay. -/
  timedOut : didTimeout = true ↔ timing.capabilities.idleCallback = true ∧
    ∃ nanos, timeout = some nanos ∧ nanos < timing.idleDelay
  withinBudget : remaining ≤ timing.idleBudget
  /-- Nothing is left after a timeout, and when the budget has passed. -/
  spent : didTimeout = true ∨ made + idleWait timing timeout + timing.idleBudget ≤ moment →
    remaining = 0

/-- What a frame callback may rely on. -/
structure FrameOnTime (timing : Timing) (made moment elapsed : Nat) : Prop where
  notEarly : made ≤ moment
  /-- A frame boundary has passed since the request. -/
  boundary : timing.capabilities.animationFrame = true → 0 < timing.frameInterval →
    ∃ frame, made < frame * timing.frameInterval ∧ frame * timing.frameInterval ≤ moment
  elapsed : elapsed = moment

/-- Whether a callback ran on time and was told the right thing. -/
def OnTime (timing : Timing) (request : Request) (p : Performance) : Prop :=
  match request.wish, p.tick with
  | .idle timeout, .idle remaining didTimeout =>
    IdleOnTime timing timeout request.made p.moment remaining didTimeout
  | .frame, .frame elapsed => FrameOnTime timing request.made p.moment elapsed
  | .idle _, .frame _ | .frame, .idle _ _ => False

/-! ## Delays -/

/-- An idle callback waits as long as it should, and its timeout counts if it is the shorter. -/
theorem delay_idle (timing : Timing) (timeout : Option Nat) (made : Nat) :
    ((⟨.idle timeout, made⟩ : Request).delay timing).1 = idleWait timing timeout ∧
      (((⟨.idle timeout, made⟩ : Request).delay timing).2 = true ↔
        timing.capabilities.idleCallback = true ∧
          ∃ nanos, timeout = some nanos ∧ nanos < timing.idleDelay) := by
  by_cases hc : timing.capabilities.idleCallback
  · cases timeout with
    | none => simp [Request.delay, Wish.capable, idleDelay, idleWait, hc]
    | some nanos =>
      by_cases hlt : nanos < timing.idleDelay
      · have hmin : min nanos timing.idleDelay = nanos := by omega
        simp [Request.delay, Wish.capable, idleDelay, idleWait, hc, hlt, hmin]
      · have hmin : min nanos timing.idleDelay = timing.idleDelay := by omega
        simp [Request.delay, Wish.capable, idleDelay, idleWait, hc, hlt, hmin]
  · simp [Request.delay, Wish.capable, idleWait, hc]

/-- A frame is at most one interval away. -/
theorem frameDelay_le (interval now : Nat) : frameDelay interval now ≤ interval := Nat.sub_le _ _

/-- The time to the next frame is positive, also at a boundary. -/
theorem frameDelay_pos_iff (interval now : Nat) : 0 < frameDelay interval now ↔ 0 < interval := by
  have hpast : (now % max interval 1) % wordLimit ≤ now % max interval 1 := Nat.mod_le _ _
  have hlt : now % max interval 1 < max interval 1 := Nat.mod_lt _ (by omega)
  unfold frameDelay
  omega

/-- When the time to the next frame is over, a boundary has passed. -/
theorem boundary_of_frameDelay {interval : Nat} (hi : 0 < interval) (now : Nat) :
    now < (now / interval + 1) * interval ∧
      (now / interval + 1) * interval ≤ now + frameDelay interval now := by
  have hmax : max interval 1 = interval := by omega
  have hdivision := Nat.div_add_mod now interval
  have hlt := Nat.mod_lt now hi
  have hpast : (now % interval) % wordLimit ≤ now % interval := Nat.mod_le _ _
  have hnext : (now / interval + 1) * interval = interval * (now / interval) + interval := by
    rw [Nat.add_mul, Nat.one_mul, Nat.mul_comm]
  rw [hnext, frameDelay, hmax]
  omega

/-- Every configuration leaves time between frames. -/
theorem frameInterval_pos (config : Config) : 0 < (Timing.ofConfig config).frameInterval := by
  simp only [Timing.ofConfig, Config.frameInterval, nanosPerMilli]
  omega

/-! ## Runs -/

/-- What runs on the firing of its own timer runs on time. -/
theorem Performance.Justified.onTime {timing : Timing} {requests : List Request} {p : Performance}
    (h : p.Justified timing requests) {request : Request}
    (hr : requests[p.request]? = some request) (hown : p.timer.request = p.request) :
    OnTime timing request p := by
  obtain ⟨_, hr', hmade, htick⟩ := h.told
  obtain rfl := Option.some.inj (hr.symm.trans hr')
  obtain ⟨_, ho, htimer, hdue⟩ := h.fired
  rw [hown] at ho
  obtain rfl := Option.some.inj (hr.symm.trans ho)
  have htimedOut : p.timer.timedOut = (request.delay timing).2 := congrArg Timer.timedOut htimer
  have hdueEq : p.timer.due = request.made + (request.delay timing).1 :=
    congrArg Timer.due htimer
  have hwait : request.made + (request.delay timing).1 ≤ p.moment := by omega
  obtain ⟨wish, made⟩ := request
  cases wish with
  | idle timeout =>
    obtain ⟨hdelay, htimeout⟩ := delay_idle timing timeout made
    have hsince : made + idleWait timing timeout ≤ p.moment := by simpa only [hdelay] using hwait
    rw [← htimedOut] at htimeout
    simp only [OnTime, htick, Request.told, Request.due, hdelay]
    refine ⟨hsince, htimeout, ?_, ?_⟩
    · split <;> omega
    · rintro (hout | hlate)
      · rw [if_pos hout]
      · split <;> omega
  | frame =>
    simp only [OnTime, htick, Request.told]
    refine ⟨hmade, fun hcapable hi => ?_, rfl⟩
    obtain ⟨hafter, hbefore⟩ := boundary_of_frameDelay hi made
    have hsince : made + frameDelay timing.frameInterval made ≤ p.moment := by
      simpa [Request.delay, Wish.capable, hcapable] using hwait
    exact ⟨_, hafter, Nat.le_trans hbefore hsince⟩

/-- Whatever is done and however late timers fire, each callback that runs does so after its
request, and on time if it was its own timer that had fired. If it was another's, then that
one's request was made a whole lap of ids before. What `runDue` runs are such callbacks: whenever
no drain is under way, a drain with nothing between its turns runs the same. To advance the clock
is to let time pass and the timers fire that are due. The time to the next
frame is never longer than the interval, and positive if the interval is, which it is in every
configuration. -/
theorem callbacks_run_on_time (timing : Timing) (beats : List Beat) :
    (∀ p ∈ ((Diary.start timing).beatAll beats).ran, ∃ request,
      ((Diary.start timing).beatAll beats).requests[p.request]? = some request ∧
      request.made ≤ p.moment ∧
      (p.timer.request = p.request → OnTime timing request p) ∧
      (p.timer.request ≠ p.request → p.timer.request + idCount ≤ p.request)) ∧
    (((Diary.start timing).beatAll beats).isAtRest = true → ∃ count ran,
      ((Diary.start timing).beatAll (beats ++ .drain :: List.replicate count .next)).scheduler =
        ((Diary.start timing).beatAll beats).scheduler.runDue.2 ∧
      ((Diary.start timing).beatAll (beats ++ .drain :: List.replicate count .next)).ran =
        ((Diary.start timing).beatAll beats).ran ++ ran ∧
      Diary.Agree ran ((Diary.start timing).beatAll beats).scheduler.runDue.1) ∧
    (∀ nanos, ∃ requests : List Nat,
      ((Diary.start timing).beatAll (beats ++ .time nanos :: requests.map .firing)).scheduler =
        ((Diary.start timing).beatAll beats).scheduler.advance nanos) ∧
    (∀ now, frameDelay timing.frameInterval now ≤ timing.frameInterval ∧
      (0 < frameDelay timing.frameInterval now ↔ 0 < timing.frameInterval)) ∧
    ∀ config, 0 < (Timing.ofConfig config).frameInterval := by
  have hsound := (Diary.Sound.start timing).beatAll beats
  refine ⟨fun p hp => ?_, fun hrest => ?_, fun nanos => ?_,
    fun now => ⟨frameDelay_le _ now, frameDelay_pos_iff _ now⟩, frameInterval_pos⟩
  · have hjustified := hsound.ran p hp
    obtain ⟨request, hr, hmade, -⟩ := hjustified.told
    exact ⟨request, hr, hmade, hjustified.onTime hr, fun hne => hjustified.lap.resolve_left hne⟩
  · obtain ⟨count, ran, -, hs, hran, hagree⟩ := Diary.drain_eq_runDue hsound hrest
    refine ⟨count, ran, ?_, ?_, hagree⟩
    · rw [Diary.beatAll_append, hs]
    · rw [Diary.beatAll_append, hran]
  · let now := ((Diary.start timing).beatAll beats).scheduler.now + nanos
    let moved := { ((Diary.start timing).beatAll beats).scheduler with now := now }
    refine ⟨moved.dueTimers.map (·.request), ?_⟩
    rw [Diary.beatAll_append, ← Diary.advance_eq_beats hsound nanos, List.map_map]
    rfl

/-- An idle callback runs on its timeout, and a frame callback on a timer that fires late. -/
def lateBeats : List Beat :=
  [.action (.idle (some 3) []), .action (.frame []), .time 3, .firing 0, .firing 1, .drain, .next,
    .time 17, .firing 1, .drain, .next]

/-- The first callback runs 3 nanoseconds after its request, the second 4 after its frame. -/
theorem callbacks_run_on_time_late :
    ((Diary.start ⟨16, 5, 50, ⟨true, true⟩⟩).beatAll lateBeats).ran =
        [⟨0, ⟨3, 0, 1, true⟩, 3, .idle 0 true⟩, ⟨1, ⟨16, 1, 2, false⟩, 20, .frame 20⟩] ∧
      ∃ request, ((Diary.start ⟨16, 5, 50, ⟨true, true⟩⟩).beatAll lateBeats).requests[1]? =
        some request ∧
      OnTime ⟨16, 5, 50, ⟨true, true⟩⟩ request ⟨1, ⟨16, 1, 2, false⟩, 20, .frame 20⟩ := by
  have hran : ((Diary.start ⟨16, 5, 50, ⟨true, true⟩⟩).beatAll lateBeats).ran =
      [⟨0, ⟨3, 0, 1, true⟩, 3, .idle 0 true⟩, ⟨1, ⟨16, 1, 2, false⟩, 20, .frame 20⟩] := by decide
  obtain ⟨request, hr, -, htime, -⟩ := (callbacks_run_on_time ⟨16, 5, 50, ⟨true, true⟩⟩ lateBeats).1
    ⟨1, ⟨16, 1, 2, false⟩, 20, .frame 20⟩ (by rw [hran]; simp)
  exact ⟨hran, request, hr, htime rfl⟩

/-! ## A firing that outlives its callback -/

/-- The timer of the first request fires and its callback is cancelled; then frame callbacks come
and go. No drain takes the firing from the queue. -/
def staleBeats (visits : Nat) : List Beat :=
  [.action (.idle none []), .time 5, .firing 0, .action (.cancel 0)] ++
    (List.range' 1 visits).flatMap fun request => [.action (.frame []), .action (.cancel request)]

/-- Nothing is pending, but the first firing is in the queue. -/
structure Diary.Stale (d : Diary) (count : Nat) : Prop where
  atRest : d.isAtRest = true
  length : d.requests.length = count
  quiet : ∀ request, ¬ d.scheduler.Awaits request
  queue : d.queue = [⟨5, 0, 1, false⟩]
  now : d.scheduler.now = 5
  ran : d.ran = []

/-- A request that comes and goes leaves the firing in the queue. -/
theorem Diary.Stale.visit {timing : Timing} {d : Diary} {count : Nat} (hd : d.Sound timing)
    (h : d.Stale count) :
    (d.beatAll [.action (.frame []), .action (.cancel count)]).Stale (count + 1) := by
  have hlength : d.scheduler.requests.length = count := by rw [← hd.requests, h.length]
  have hframe : d.beat (.action (.frame [])) = d.act (.frame []) := if_pos h.atRest
  have hcancel : (d.act (.frame [])).beat (.action (.cancel count)) =
      (d.act (.frame [])).act (.cancel count) := if_pos h.atRest
  have hscheduler : ((d.act (.frame [])).act (.cancel count)).scheduler =
      ((d.scheduler.requestFrame []).2.perform (.cancel d.scheduler.requests.length)).2 := by
    rw [hlength]
    rfl
  have hnow : (d.scheduler.requestFrame []).2.now = 5 := by
    obtain ⟨_, _, _, _, he⟩ := d.scheduler.requestFrame_eq []
    rw [he]
    exact h.now
  have hwish : wish? (.cancel d.scheduler.requests.length) = none := rfl
  obtain ⟨-, hkept, -⟩ := (d.scheduler.requestFrame []).2.perform_of_no_wish hwish
  rw [beatAll_cons, beatAll_cons, beatAll_nil, hframe, hcancel]
  refine ⟨h.atRest, ?_, ?_, h.queue, ?_, h.ran⟩
  · simp [act, wish?, h.length]
  · intro request
    rw [hscheduler, hd.numbered.awaits_visit_iff fun old ha => absurd ha (h.quiet old)]
    exact h.quiet request
  · rw [hscheduler, hkept]
    exact hnow

/-- After the visits nothing is pending, and the first firing is still in the queue. -/
theorem stale_staleBeats (visits : Nat) :
    ((Diary.start ⟨16, 5, 50, ⟨true, true⟩⟩).beatAll (staleBeats visits)).Stale (visits + 1) := by
  induction visits with
  | zero =>
    refine ⟨rfl, rfl, ?_, rfl, rfl, rfl⟩
    rintro request ⟨id, entry, hp, -⟩
    cases hp
  | succ visits ih =>
    have hbeats : staleBeats (visits + 1) = staleBeats visits ++
        [.action (.frame []), .action (.cancel (visits + 1))] := by
      simp [staleBeats, List.range'_concat, Nat.add_comm]
    rw [hbeats, Diary.beatAll_append]
    exact ih.visit ((Diary.Sound.start _).beatAll _)

/-- What is requested when the ids start over runs at once on a firing that was left behind: the new
callback is under the id of the firing that waits in the queue. -/
theorem Diary.Stale.early {timing : Timing} {d : Diary} (hd : d.Sound timing)
    (h : d.Stale idCount) :
    (d.beatAll [.action (.idle none []), .drain, .next]).requests[idCount]? =
        some ⟨.idle none, 5⟩ ∧
      ∃ tick, (d.beatAll [.action (.idle none []), .drain, .next]).ran =
        [⟨idCount, ⟨5, 0, 1, false⟩, 5, tick⟩] := by
  have hlength : d.scheduler.requests.length = idCount := by rw [← hd.requests, h.length]
  have hidle : d.beat (.action (.idle none [])) = d.act (.idle none []) := if_pos h.atRest
  have hdrain : (d.act (.idle none [])).beat .drain = (d.act (.idle none [])).drain :=
    if_pos h.atRest
  obtain ⟨delay, timedOut, deadline, degraded, he⟩ := d.scheduler.requestIdle_eq none []
  have hs : (d.act (.idle none [])).scheduler =
      (d.scheduler.schedule .idle delay timedOut deadline degraded []).2 := congrArg Prod.snd he
  have hnow : (d.act (.idle none [])).scheduler.now = 5 := by
    rw [hs]
    exact h.now
  have hawaits : (d.act (.idle none [])).scheduler.Awaits idCount := by
    rw [hs, hd.numbered.awaits_schedule_iff, hlength]
    exact .inl rfl
  obtain ⟨entry, hp, hentry⟩ := ((hd.act (.idle none [])).numbered.awaits_iff idCount).mp hawaits
  have hid : idOfRequest idCount = 1 := by simp [idOfRequest, Nat.mod_self]
  rw [hid] at hp
  have hdoing : (d.act (.idle none [])).drain.doing = [] := ((d.isAtRest_iff).mp h.atRest).2
  have htaken : (d.act (.idle none [])).drain.taken = [⟨5, 0, 1, false⟩] := h.queue
  have hnext : (d.act (.idle none [])).drain.beat .next =
      { (d.act (.idle none [])).drain with taken := [] }.turn ⟨5, 0, 1, false⟩ := by
    simp only [Diary.beat, Diary.next, hdoing, htaken]
  have hpending : (d.act (.idle none [])).drain.scheduler.pending =
      (d.act (.idle none [])).scheduler.pending := rfl
  rw [beatAll_cons, beatAll_cons, beatAll_cons, beatAll_nil, hidle, hdrain, hnext]
  simp only [Diary.turn, hpending, hp]
  constructor
  · simp [Diary.drain, Diary.act, wish?, ← h.length, h.now]
  · have hmoment : (d.act (.idle none [])).drain.scheduler.now = 5 := hnow
    have hran : (d.act (.idle none [])).drain.ran = [] := h.ran
    simp only [hmoment, hran, hentry, List.nil_append]
    exact ⟨_, rfl⟩

/-- An idle callback runs at once, 5 nanoseconds before its delay is over: the firing of the first
request's timer was still in the queue when that request's id was given out again. -/
theorem callback_runs_early :
    ∃ p ∈ ((Diary.start ⟨16, 5, 50, ⟨true, true⟩⟩).beatAll
        (staleBeats 4294967294 ++ [.action (.idle none []), .drain, .next])).ran,
      ∃ request, ((Diary.start ⟨16, 5, 50, ⟨true, true⟩⟩).beatAll
        (staleBeats 4294967294 ++ [.action (.idle none []), .drain, .next])).requests[p.request]? =
          some request ∧
        request = ⟨.idle none, 5⟩ ∧ p.moment = 5 ∧
        ¬ OnTime ⟨16, 5, 50, ⟨true, true⟩⟩ request p := by
  have hsound := (Diary.Sound.start ⟨16, 5, 50, ⟨true, true⟩⟩).beatAll (staleBeats 4294967294)
  obtain ⟨hr, tick, hran⟩ := (stale_staleBeats 4294967294).early hsound
  rw [Diary.beatAll_append, hran]
  refine ⟨_, List.mem_singleton_self _, _, hr, rfl, rfl, fun htime => ?_⟩
  cases tick with
  | idle remaining didTimeout =>
    have hearly : 5 + idleWait ⟨16, 5, 50, ⟨true, true⟩⟩ none ≤ 5 := htime.notEarly
    exact absurd hearly (by decide)
  | frame elapsed => exact htime

end PageHost.Scheduler
