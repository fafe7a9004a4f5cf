import PageHost.Proofs.Scheduler.Numbering
/-!
# Diaries

A diary keeps what a scheduler forgets: when each callback was requested and what for, which
timers were armed, and which callback ran at what time and on the firing of which timer. Time may
pass between any two things that are done, also in the middle of a drain, and a timer fires at any
time at which it is due, maybe late, but never early. A timer that was disarmed may fire all the
same when it was already on its way.

A drain with nothing between its turns is `runDue`, and the clock's way to let timers fire is one
of the ways.
-/

namespace PageHost.Scheduler

/-- What a callback is requested for. -/
inductive Wish where
  /-- An idle time, or the time that a timeout sets. -/
  | idle (timeout : Option Nat)
  | frame
deriving Repr, DecidableEq

/-- A request: what for, and when it was made. -/
structure Request where
  wish : Wish
  made : Nat
deriving Repr, DecidableEq

/-- A callback that ran: its request, the timer that had fired, the time, and what it was told. -/
structure Performance where
  request : Nat
  timer : Timer
  moment : Nat
  tick : Tick
deriving Repr, DecidableEq

/-- A scheduler with what has been noted about it. -/
structure Diary where
  scheduler : Scheduler
  /-- All requests, in order. -/
  requests : List Request
  /-- All timers that were ever armed, in order. -/
  armed : List Timer
  /-- The timers behind the queue. -/
  queue : List Timer
  /-- The timers that the drain under way has yet to come to. -/
  taken : List Timer
  /-- What the running callback has yet to do. -/
  doing : List Action
  /-- The callbacks that ran, in order. -/
  ran : List Performance

/-- What an action requests a callback for, if it requests one. -/
def wish? : Action → Option Wish
  | .idle timeout _ => some (.idle timeout)
  | .frame _ => some .frame
  | .cancel _ | .pending => none

/-- Something that is done, or that comes about. -/
inductive Beat where
  | time (nanos : Nat)
  /-- The timer of a request fires. -/
  | firing (request : Nat)
  /-- The owner does an action. -/
  | action (action : Action)
  /-- The owner starts a drain. -/
  | drain
  /-- The drain goes on: the running callback does its next action, or the next turn comes. -/
  | next

namespace Diary

/-- An empty diary. -/
def start (timing : Timing) : Diary := ⟨.start timing, [], [], [], [], [], []⟩

/-- Whether no drain is under way. -/
def isAtRest (d : Diary) : Bool := d.taken.isEmpty && d.doing.isEmpty

/-- An action is done. -/
def act (d : Diary) (action : Action) : Diary :=
  { d with
    scheduler := (d.scheduler.perform action).2
    requests := d.requests ++ (wish? action).toList.map fun wish => ⟨wish, d.scheduler.now⟩
    armed := d.armed ++ (d.scheduler.perform action).2.timers.drop d.scheduler.timers.length }

/-- A timer fires. -/
def fire (d : Diary) (t : Timer) : Diary :=
  { d with scheduler := d.scheduler.fire t, queue := d.queue ++ [t] }

/-- The turn of a timer that has fired. -/
def turn (d : Diary) (t : Timer) : Diary :=
  match Keyed.get? d.scheduler.pending t.id with
  | none => d
  | some entry =>
    { d with
      scheduler := { d.scheduler with pending := Keyed.erase d.scheduler.pending t.id }
      doing := entry.body
      ran := d.ran ++ [⟨entry.request, t, d.scheduler.now, d.scheduler.tickOf entry t.timedOut⟩] }

/-- A drain starts. -/
def drain (d : Diary) : Diary :=
  { d with scheduler := { d.scheduler with fired := [] }, queue := [], taken := d.queue }

/-- A drain goes on. -/
def next (d : Diary) : Diary :=
  match d.doing, d.taken with
  | action :: rest, _ => { d with doing := rest }.act action
  | [], t :: rest => { d with taken := rest }.turn t
  | [], [] => d

/-- A beat. A timer that is not due does not fire, and the owner waits for a drain to end. -/
def beat (d : Diary) : Beat → Diary
  | .time nanos => { d with scheduler := { d.scheduler with now := d.scheduler.now + nanos } }
  | .firing request =>
    match d.armed[request]? with
    | none => d
    | some t => if t.due ≤ d.scheduler.now then d.fire t else d
  | .action action => if d.isAtRest then d.act action else d
  | .drain => if d.isAtRest then d.drain else d
  | .next => d.next

/-- One beat after the other. -/
def beatAll (d : Diary) (beats : List Beat) : Diary := beats.foldl beat d

@[simp] theorem beatAll_nil (d : Diary) : d.beatAll [] = d := rfl

@[simp] theorem beatAll_cons (d : Diary) (b : Beat) (beats : List Beat) :
    d.beatAll (b :: beats) = (d.beat b).beatAll beats := rfl

/-- Beats can be cut in two. -/
theorem beatAll_append (d : Diary) (beats more : List Beat) :
    d.beatAll (beats ++ more) = (d.beatAll beats).beatAll more := List.foldl_append

end Diary

/-! ## What a request comes to -/

/-- The kind of callback that is wished for. -/
def Wish.kind : Wish → CallbackKind
  | .idle _ => .idle
  | .frame => .frame

/-- Whether the host can schedule such a callback. -/
def Wish.capable (timing : Timing) : Wish → Bool
  | .idle _ => timing.capabilities.idleCallback
  | .frame => timing.capabilities.animationFrame

namespace Request

/-- How long the timer of a request runs, and whether its timeout sets that. -/
def delay (timing : Timing) (request : Request) : Nat × Bool :=
  if request.wish.capable timing then
    match request.wish with
    | .idle timeout => idleDelay timing timeout
    | .frame => (frameDelay timing.frameInterval request.made, false)
  else (0, false)

/-- When the timer of a request is due. -/
def due (timing : Timing) (request : Request) : Nat := request.made + (request.delay timing).1

/-- The deadline of the callback. -/
def deadline (timing : Timing) (request : Request) : Option Nat :=
  match request.wish with
  | .idle _ => some (request.due timing + timing.idleBudget)
  | .frame => none

/-- The timer of a request, by the number of the request. -/
def timer (timing : Timing) (number : Nat) (request : Request) : Timer :=
  ⟨request.due timing, number, idOfRequest number, (request.delay timing).2⟩

/-- What the callback is told when it runs on a firing. -/
def told (timing : Timing) (request : Request) (timedOut : Bool) (moment : Nat) : Tick :=
  match request.wish with
  | .idle _ =>
    .idle (if timedOut then 0 else request.due timing + timing.idleBudget - moment) timedOut
  | .frame => .frame moment

end Request

/-- An action that wishes for a callback requests it, with the delay and the deadline of the
request. -/
theorem perform_of_wish (s : Scheduler) {action : Action} {wish : Wish}
    (hw : wish? action = some wish) :
    ∃ degraded body, (s.perform action).2 =
      (s.schedule wish.kind ((⟨wish, s.now⟩ : Request).delay s.timing).1
        ((⟨wish, s.now⟩ : Request).delay s.timing).2
        ((⟨wish, s.now⟩ : Request).deadline s.timing) degraded body).2 := by
  cases action with
  | idle timeout body =>
    obtain rfl := Option.some.inj hw
    by_cases hc : s.timing.capabilities.idleCallback
    · exact ⟨false, body, by simp [perform, requestIdle, hc, Request.delay, Request.deadline,
        Request.due, Wish.capable, Wish.kind]⟩
    · exact ⟨true, body, by simp [perform, requestIdle, hc, Request.delay, Request.deadline,
        Request.due, Wish.capable, Wish.kind]⟩
  | frame body =>
    obtain rfl := Option.some.inj hw
    by_cases hc : s.timing.capabilities.animationFrame
    · exact ⟨false, body, by simp [perform, requestFrame, hc, Request.delay, Request.deadline,
        Wish.capable, Wish.kind]⟩
    · exact ⟨true, body, by simp [perform, requestFrame, hc, Request.delay, Request.deadline,
        Wish.capable, Wish.kind]⟩
  | cancel | pending => cases hw

/-- An action that wishes for nothing adds nothing: it may take a callback and its timer away. -/
theorem perform_of_no_wish (s : Scheduler) {action : Action} (hw : wish? action = none) :
    (s.perform action).2.timers.Sublist s.timers ∧
      (s.perform action).2 = { s with
        pending := (s.perform action).2.pending
        timers := (s.perform action).2.timers } ∧
      ∀ id entry, Keyed.get? (s.perform action).2.pending id = some entry →
        Keyed.get? s.pending id = some entry := by
  cases action with
  | idle | frame => cases hw
  | pending => exact ⟨.refl _, rfl, fun _ _ h => h⟩
  | cancel request =>
    simp only [perform]
    cases s.requests[request]? with
    | none => exact ⟨.refl _, rfl, fun _ _ h => h⟩
    | some handle =>
      simp only [Scheduler.cancel]
      cases Keyed.get? s.pending handle.id with
      | none => exact ⟨.refl _, rfl, fun _ _ h => h⟩
      | some entry => exact ⟨List.filter_sublist, rfl, fun _ _ => Keyed.get?_of_erase⟩

/-- What is told to a callback is told by its request and by the firing. -/
theorem tickOf_eq (s : Scheduler) {timing : Timing} {entry : PendingCallback} {request : Request}
    (hk : entry.kind = request.wish.kind) (hl : entry.deadline = request.deadline timing)
    (timedOut : Bool) : s.tickOf entry timedOut = request.told timing timedOut s.now := by
  unfold tickOf Request.told
  cases hw : request.wish with
  | idle timeout => simp [hk, hl, hw, Wish.kind, Request.deadline]
  | frame => simp [hk, hw, Wish.kind]

/-! ## What a diary keeps -/

/-- What is known of a callback that ran. -/
structure Performance.Justified (timing : Timing) (requests : List Request) (p : Performance) :
    Prop where
  told : ∃ request, requests[p.request]? = some request ∧ request.made ≤ p.moment ∧
    p.tick = request.told timing p.timer.timedOut p.moment
  /-- It ran when a timer had been due, that of its own request or of one under the same id. -/
  fired : ∃ other, requests[p.timer.request]? = some other ∧
    p.timer = other.timer timing p.timer.request ∧ p.timer.due ≤ p.moment
  lap : p.timer.request = p.request ∨ p.timer.request + idCount ≤ p.request

/-- A run stays justified when more is requested. -/
theorem Performance.Justified.mono {timing : Timing} {requests : List Request} {p : Performance}
    (h : p.Justified timing requests) (more : List Request) :
    p.Justified timing (requests ++ more) := by
  have hkeep : ∀ {n : Nat} {request : Request}, requests[n]? = some request →
      (requests ++ more)[n]? = some request := by
    intro n request hn
    rw [List.getElem?_append_left (List.getElem?_eq_some_iff.mp hn).1, hn]
  obtain ⟨request, hr, htold⟩ := h.told
  obtain ⟨other, ho, hfired⟩ := h.fired
  exact ⟨⟨request, hkeep hr, htold⟩, ⟨other, hkeep ho, hfired⟩, h.lap⟩

namespace Diary

/-- A diary that agrees with its scheduler. -/
structure Sound (timing : Timing) (d : Diary) : Prop where
  constant : d.scheduler.timing = timing
  numbered : Numbered d.scheduler
  requests : d.requests.length = d.scheduler.requests.length
  made : ∀ request ∈ d.requests, request.made ≤ d.scheduler.now
  armed : d.armed = d.requests.mapIdx (Request.timer timing)
  timers : ∀ t ∈ d.scheduler.timers, t ∈ d.armed
  queue : d.scheduler.fired = d.queue.map fun t => ⟨t.id, t.timedOut⟩
  /-- Only what was due has fired. -/
  due : ∀ t ∈ d.queue ++ d.taken, t ∈ d.armed ∧ t.due ≤ d.scheduler.now
  entries : ∀ id entry, Keyed.get? d.scheduler.pending id = some entry →
    ∃ request, d.requests[entry.request]? = some request ∧ entry.kind = request.wish.kind ∧
      entry.deadline = request.deadline timing
  ran : ∀ p ∈ d.ran, p.Justified timing d.requests

namespace Sound

variable {timing : Timing} {d : Diary}

/-- A fresh diary is sound. -/
theorem start (timing : Timing) : Sound timing (.start timing) where
  constant := rfl
  numbered := (Reached.start timing).numbered (.inl rfl)
  requests := rfl
  made := nofun
  armed := rfl
  timers := nofun
  queue := rfl
  due := nofun
  entries := nofun
  ran := nofun

/-- A timer that was armed is that of its request. -/
theorem exists_of_mem_armed (hd : Sound timing d) {t : Timer} (ht : t ∈ d.armed) :
    ∃ request, d.requests[t.request]? = some request ∧ t = request.timer timing t.request := by
  rw [hd.armed, List.mem_mapIdx] at ht
  obtain ⟨number, hlt, rfl⟩ := ht
  exact ⟨d.requests[number], List.getElem?_eq_getElem hlt, rfl⟩

/-- The timers that were armed are in the order of their requests. -/
theorem armed_getElem? (hd : Sound timing d) {t : Timer} (ht : t ∈ d.armed) :
    d.armed[t.request]? = some t := by
  obtain ⟨request, hr, he⟩ := hd.exists_of_mem_armed ht
  rw [hd.armed, List.getElem?_mapIdx, hr, Option.map_some, ← he]

theorem time (hd : Sound timing d) (nanos : Nat) : Sound timing (d.beat (.time nanos)) :=
  { hd with
    numbered := hd.numbered.of_sub rfl rfl fun _ _ h => h
    made := fun request hm => Nat.le_add_right_of_le (hd.made request hm)
    due := fun t hm => ⟨(hd.due t hm).1, Nat.le_add_right_of_le (hd.due t hm).2⟩ }

/-- A diary stays sound when a timer that is due fires. -/
theorem fire (hd : Sound timing d) {t : Timer} (ht : t ∈ d.armed)
    (hdue : t.due ≤ d.scheduler.now) : Sound timing (d.fire t) :=
  { hd with
    numbered := hd.numbered.of_sub rfl rfl fun _ _ h => h
    timers := fun other hm => hd.timers other (List.mem_filter.mp hm).1
    queue := by simp [Diary.fire, Scheduler.fire, hd.queue]
    due := by
      intro other hm
      rcases List.mem_append.mp hm with hm | hm
      · rcases List.mem_append.mp hm with hm | hm
        · exact hd.due other (List.mem_append_left _ hm)
        · rw [List.mem_singleton.mp hm]
          exact ⟨ht, hdue⟩
      · exact hd.due other (List.mem_append_right _ hm) }

theorem drain (hd : Sound timing d) : Sound timing d.drain :=
  { hd with
    numbered := hd.numbered.of_sub rfl rfl fun _ _ h => h
    queue := rfl
    due := fun t hm => hd.due t (List.mem_append_left _ hm) }

/-- An action that wishes for nothing. -/
theorem act_of_no_wish (hd : Sound timing d) {action : Action} (hw : wish? action = none) :
    Sound timing (d.act action) := by
  obtain ⟨htimers, hs, hpending⟩ := d.scheduler.perform_of_no_wish hw
  have hdrop : (d.scheduler.perform action).2.timers.drop d.scheduler.timers.length = [] :=
    List.drop_eq_nil_of_le htimers.length_le
  have hact : d.act action = { d with scheduler := (d.scheduler.perform action).2 } := by
    simp [act, hw, hdrop]
  rw [hact]
  rw [hs]
  exact { hd with
    numbered := hd.numbered.of_sub rfl rfl hpending
    timers := fun t hm => hd.timers t (htimers.subset hm)
    entries := fun id entry h => hd.entries id entry (hpending id entry h) }

/-- An action that wishes for a callback. -/
theorem act_of_wish (hd : Sound timing d) {action : Action} {wish : Wish}
    (hw : wish? action = some wish) : Sound timing (d.act action) := by
  obtain ⟨degraded, body, hs⟩ := d.scheduler.perform_of_wish hw
  rw [hd.constant] at hs
  have hid : d.scheduler.nextId = idOfRequest d.requests.length := by
    rw [hd.numbered.nextId, hd.requests]
  have harm : (d.act action).armed = d.armed ++
      [(⟨wish, d.scheduler.now⟩ : Request).timer timing d.requests.length] := by
    simp [act, hs, schedule, Request.timer, Request.due, hid, hd.requests]
  have hrequests : (d.act action).requests = d.requests ++ [⟨wish, d.scheduler.now⟩] := by
    simp [act, hw]
  have hscheduler : (d.act action).scheduler = _ := hs
  refine ⟨?_, ?_, ?_, ?_, ?_, ?_, ?_, ?_, ?_, ?_⟩
  · rw [hscheduler]
    exact hd.constant
  · rw [hscheduler]
    exact hd.numbered.schedule _ _ _ _ _ _
  · rw [hscheduler, hrequests]
    simp [schedule, hd.requests]
  · rw [hscheduler, hrequests]
    intro request hm
    rcases List.mem_append.mp hm with hm | hm
    · exact hd.made request hm
    · rw [List.mem_singleton.mp hm]
      exact Nat.le_refl _
  · rw [harm, hrequests, List.mapIdx_concat, hd.armed]
  · rw [hscheduler, harm]
    intro t hm
    rcases List.mem_append.mp hm with hm | hm
    · exact List.mem_append_left _ (hd.timers t hm)
    · refine List.mem_append_right _ ?_
      simpa [Request.timer, Request.due, hid, hd.requests] using hm
  · rw [hscheduler]
    exact hd.queue
  · rw [hscheduler, harm]
    intro t hm
    exact ⟨List.mem_append_left _ (hd.due t hm).1, (hd.due t hm).2⟩
  · rw [hscheduler, hrequests]
    intro id entry hp
    rw [schedule, Keyed.get?_set] at hp
    split at hp
    · obtain rfl := Option.some.inj hp
      refine ⟨⟨wish, d.scheduler.now⟩, ?_, rfl, rfl⟩
      rw [← hd.requests, List.getElem?_concat_length]
    · obtain ⟨request, hr, hsame⟩ := hd.entries id entry hp
      refine ⟨request, ?_, hsame⟩
      rw [List.getElem?_append_left (List.getElem?_eq_some_iff.mp hr).1, hr]
  · rw [hrequests]
    exact fun p hm => (hd.ran p hm).mono _

theorem act (hd : Sound timing d) (action : Action) : Sound timing (d.act action) := by
  cases hw : wish? action with
  | none => exact hd.act_of_no_wish hw
  | some wish => exact hd.act_of_wish hw

theorem turn (hd : Sound timing d) {t : Timer} (ht : t ∈ d.armed)
    (hdue : t.due ≤ d.scheduler.now) : Sound timing (d.turn t) := by
  unfold Diary.turn
  split
  · exact hd
  · next entry hp =>
    obtain ⟨other, ho, hother⟩ := hd.exists_of_mem_armed ht
    obtain ⟨request, hr, hkind, hdeadline⟩ := hd.entries t.id entry hp
    obtain ⟨hid, hlt, hle⟩ := hd.numbered.entries t.id entry hp
    have htid : t.id = idOfRequest t.request := congrArg Timer.id hother
    have hlap : t.request = entry.request ∨ t.request + idCount ≤ entry.request := by
      have hold : t.request < d.requests.length := (List.getElem?_eq_some_iff.mp ho).1
      rw [htid] at hid
      rw [hd.requests] at hold
      simp only [idOfRequest, idCount] at hid hle ⊢
      omega
    have hpast : request.made ≤ d.scheduler.now := hd.made request (List.mem_of_getElem? hr)
    exact { hd with
      numbered := hd.numbered.of_sub rfl rfl fun _ _ => Keyed.get?_of_erase
      entries := fun id kept h => hd.entries id kept (Keyed.get?_of_erase h)
      ran := by
        intro p hm
        rcases List.mem_append.mp hm with hm | hm
        · exact hd.ran p hm
        · rw [List.mem_singleton.mp hm]
          exact ⟨⟨request, hr, hpast, d.scheduler.tickOf_eq hkind hdeadline t.timedOut⟩,
            ⟨other, ho, hother, hdue⟩, hlap⟩ }

/-- A diary stays sound over the next step of a drain. -/
theorem next (hd : Sound timing d) : Sound timing d.next := by
  unfold Diary.next
  split
  · next _ action rest _ =>
    have hsound : Sound timing { d with doing := rest } := { hd with }
    exact hsound.act action
  · next t rest hdoing htaken =>
    have hsound : Sound timing { d with taken := rest } :=
      { hd with
        due := by
          intro other hm
          refine hd.due other ?_
          rw [htaken]
          rcases List.mem_append.mp hm with hm | hm
          · exact List.mem_append_left _ hm
          · exact List.mem_append_right _ (List.mem_cons_of_mem _ hm) }
    obtain ⟨harmed, hdue⟩ := hd.due t (by simp [htaken])
    exact hsound.turn harmed hdue
  · exact hd

/-- Each beat keeps a diary sound. -/
theorem beat (hd : Sound timing d) (b : Beat) : Sound timing (d.beat b) := by
  cases b with
  | time nanos => exact hd.time nanos
  | firing request =>
    simp only [Diary.beat]
    split
    · exact hd
    · next t ht =>
      split
      · next hdue => exact hd.fire (List.mem_of_getElem? ht) hdue
      · exact hd
  | action action =>
    simp only [Diary.beat]
    split
    · exact hd.act action
    · exact hd
  | drain =>
    simp only [Diary.beat]
    split
    · exact hd.drain
    · exact hd
  | next => exact hd.next

/-- So do any number of beats. -/
theorem beatAll (hd : Sound timing d) (beats : List Beat) : Sound timing (d.beatAll beats) := by
  induction beats generalizing d with
  | nil => exact hd
  | cons b rest ih => exact ih (hd.beat b)

end Sound

/-! ## Drains without anything between, and the clock -/

/-- A diary is at rest when nothing is taken and nothing is to do. -/
theorem isAtRest_iff (d : Diary) : d.isAtRest = true ↔ d.taken = [] ∧ d.doing = [] := by
  simp [isAtRest]

/-- The running callback does what it has yet to do. -/
theorem next_doing (d : Diary) :
    (d.beatAll (List.replicate d.doing.length .next)).scheduler =
        (d.scheduler.performAll d.doing).2 ∧
      (d.beatAll (List.replicate d.doing.length .next)).doing = [] ∧
      (d.beatAll (List.replicate d.doing.length .next)).taken = d.taken ∧
      (d.beatAll (List.replicate d.doing.length .next)).ran = d.ran := by
  generalize hdoing : d.doing = actions
  induction actions generalizing d with
  | nil => exact ⟨rfl, hdoing, rfl, rfl⟩
  | cons action rest ih =>
    have hbeat : d.beat .next = { d with doing := rest }.act action := by
      simp only [beat, next, hdoing]
    obtain ⟨hs, hd, ht, hr⟩ := ih (d.beat .next) (by rw [hbeat]; rfl)
    refine ⟨hs.trans ?_, hd, ht.trans ?_, hr.trans ?_⟩
    · rw [hbeat]
      rfl
    · rw [hbeat]
      rfl
    · rw [hbeat]
      rfl

/-- What a run and a performance have in common: whose callback it is, and what it is told. -/
def Agree (ran : List Performance) (runs : List Run) : Prop :=
  ran.map (fun p => (p.request, p.tick)) = runs.map fun run => (run.request, run.tick)

/-- Turns that nothing comes between are those that `runAll` gives. -/
theorem next_taken (d : Diary) (hdoing : d.doing = []) :
    ∃ count ran, (d.beatAll (List.replicate count .next)).isAtRest = true ∧
      (d.beatAll (List.replicate count .next)).scheduler =
        (d.scheduler.runAll (d.taken.map fun t => ⟨t.id, t.timedOut⟩)).2 ∧
      (d.beatAll (List.replicate count .next)).ran = d.ran ++ ran ∧
      Agree ran (d.scheduler.runAll (d.taken.map fun t => ⟨t.id, t.timedOut⟩)).1 := by
  generalize htaken : d.taken = timers
  induction timers generalizing d with
  | nil => exact ⟨0, [], by simp [isAtRest, htaken, hdoing], rfl, by simp, rfl⟩
  | cons t rest ih =>
    have hbeat : d.beat .next = { d with taken := rest }.turn t := by
      simp only [beat, next, hdoing, htaken]
    cases hp : Keyed.get? d.scheduler.pending t.id with
    | none =>
      have hskip : d.beat .next = { d with taken := rest } := by
        simp only [hbeat, turn, hp]
      obtain ⟨count, ran, hrest, hs, hran, hagree⟩ := ih (d.beat .next) (by rw [hskip]; exact hdoing)
        (by rw [hskip])
      refine ⟨count + 1, ran, ?_⟩
      rw [List.replicate_succ, beatAll_cons]
      simp only [List.map_cons, runAll, runFired, hp, Option.toList_none, List.nil_append]
      rw [hskip] at hs hran hagree hrest ⊢
      exact ⟨hrest, hs, hran, hagree⟩
    | some entry =>
      have hturn : d.beat .next = { d with
          taken := rest
          scheduler := { d.scheduler with pending := Keyed.erase d.scheduler.pending t.id }
          doing := entry.body
          ran := d.ran ++ [⟨entry.request, t, d.scheduler.now,
            d.scheduler.tickOf entry t.timedOut⟩] } := by
        simp only [hbeat, turn, hp]
      have hscheduler := congrArg Diary.scheduler hturn
      have hbody := congrArg Diary.doing hturn
      have hran := congrArg Diary.ran hturn
      obtain ⟨hs, hdone, hleft, hsame⟩ := (d.beat .next).next_doing
      rw [hscheduler, hbody] at hs
      rw [hran, hbody] at hsame
      rw [hbody] at hdone hleft
      obtain ⟨count, ran, hrest, hs', hran', hagree⟩ := ih _ hdone (by rw [hleft, hturn])
      rw [hs] at hs' hagree
      rw [hsame] at hran'
      refine ⟨entry.body.length + count + 1, ⟨entry.request, t, d.scheduler.now,
        d.scheduler.tickOf entry t.timedOut⟩ :: ran, ?_⟩
      rw [List.replicate_succ, ← List.replicate_append_replicate, beatAll_cons, beatAll_append]
      simp only [List.map_cons, runAll, runFired, hp, Option.toList_some, List.singleton_append]
      refine ⟨hrest, hs', ?_, ?_⟩
      · rw [hran', List.append_assoc, List.singleton_append]
      · simpa [Agree] using hagree

/-- A drain that nothing comes between is the one that `runDue` does. -/
theorem drain_eq_runDue {timing : Timing} {d : Diary} (hd : Sound timing d)
    (hrest : d.isAtRest = true) :
    ∃ count ran, (d.beatAll (.drain :: List.replicate count .next)).isAtRest = true ∧
      (d.beatAll (.drain :: List.replicate count .next)).scheduler = d.scheduler.runDue.2 ∧
      (d.beatAll (.drain :: List.replicate count .next)).ran = d.ran ++ ran ∧
      Agree ran d.scheduler.runDue.1 := by
  have hbeat : d.beat .drain = d.drain := if_pos hrest
  have hdoing : d.drain.doing = [] := ((d.isAtRest_iff).mp hrest).2
  rw [runDue, hd.queue]
  simp only [beatAll_cons, hbeat]
  exact d.drain.next_taken hdoing

/-- Timers that are due fire one after the other. -/
theorem firings_eq_fireAll (d : Diary) (timers : List Timer)
    (h : ∀ t ∈ timers, d.armed[t.request]? = some t ∧ t.due ≤ d.scheduler.now) :
    (d.beatAll (timers.map fun t => .firing t.request)).scheduler = d.scheduler.fireAll timers := by
  induction timers generalizing d with
  | nil => rfl
  | cons t rest ih =>
    obtain ⟨harmed, hdue⟩ := h t List.mem_cons_self
    have hbeat : d.beat (.firing t.request) = d.fire t := by
      simp only [beat, harmed, if_pos hdue]
    rw [List.map_cons, beatAll_cons, hbeat]
    exact ih (d.fire t) fun other hm => h other (List.mem_cons_of_mem _ hm)

/-- To move the clock is to let time pass and the timers fire that are due. -/
theorem advance_eq_beats {timing : Timing} {d : Diary} (hd : Sound timing d) (nanos : Nat) :
    (d.beatAll (.time nanos :: { d.scheduler with now := d.scheduler.now + nanos }.dueTimers.map
      fun t : Timer => .firing t.request)).scheduler = d.scheduler.advance nanos := by
  refine (d.beat (.time nanos)).firings_eq_fireAll _ fun t hm => ?_
  obtain ⟨harmed, hdue⟩ := List.mem_filter.mp (List.mem_mergeSort.mp hm)
  exact ⟨hd.armed_getElem? (hd.timers t harmed), of_decide_eq_true hdue⟩

end Diary

end PageHost.Scheduler
