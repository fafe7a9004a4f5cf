import PageHost.Proofs.Scheduler.Firing
/-!
# Drains

A drain gives each entry of the queue one turn, in the order of the queue as it stood when
the drain started, and what runs is what `runDue` answers. In the course of a scheduler it is
the part between its start and its end, which no other drain interrupts. Timers that fire in
the middle of it join the queue for the next drain and make no other difference: a drain ends
where `runDue` and then those timers lead.
-/

namespace PageHost.Scheduler

open Happening

/-- The id of the callback that ran. -/
def idOf (s : Scheduler) (run : Run) : Option Nat := (s.requests[run.request]?).map (·.id)

/-- Each pending callback belongs to the request whose handle has its id. -/
def Named (s : Scheduler) : Prop :=
  ∀ id entry, Keyed.get? s.pending id = some entry →
    (s.requests[entry.request]?).map (·.id) = some id

/-- Pending callbacks belong to requests after each happening. -/
theorem Happens.named {s next : Scheduler} {what : Happening} (h : Happens s what next)
    (hn : Named s) : Named next := by
  intro id entry hp
  cases h with
  | requested =>
    rw [schedule, Keyed.get?_set] at hp
    split at hp
    · next he =>
      obtain rfl := Option.some.inj hp
      simp [schedule, he]
    · obtain ⟨handle, hr, hid⟩ := Option.map_eq_some_iff.mp (hn id entry hp)
      have hlt : entry.request < s.requests.length := (List.getElem?_eq_some_iff.mp hr).1
      simp [schedule, List.getElem?_append_left hlt, hr, hid]
  | cancelled =>
    rw [Keyed.get?_erase] at hp
    split at hp
    · cases hp
    · exact hn id entry hp
  | ran =>
    rw [Keyed.get?_erase] at hp
    split at hp
    · cases hp
    · exact hn id entry hp
  | _ => exact hn id entry hp

/-- Timers that fire do not matter for the requests to which pending callbacks belong. -/
theorem named_fireAll (s : Scheduler) (timers : List Timer) :
    Named (s.fireAll timers) ↔ Named s := by
  simp [Named]

/-- What ran keeps its id when more is requested. -/
theorem map_idOf_mono {s next : Scheduler} {runs : List Run} {ran : List Nat}
    (h : runs.map s.idOf = ran.map some) (hp : s.requests <+: next.requests) :
    runs.map next.idOf = ran.map some := by
  rw [← h]
  refine List.map_congr_left fun run hm => ?_
  have hsome : s.idOf run ∈ ran.map some := h ▸ List.mem_map_of_mem hm
  obtain ⟨id, -, hid⟩ := List.mem_map.mp hsome
  obtain ⟨handle, hr, rfl⟩ := Option.map_eq_some_iff.mp hid.symm
  obtain ⟨more, hnext⟩ := hp
  have hlt : run.request < s.requests.length := (List.getElem?_eq_some_iff.mp hr).1
  rw [idOf, idOf, ← hnext, List.getElem?_append_left hlt]

/-- A list is split at an entry in its first or in its second part. -/
theorem split_append {α : Type} {xs ys before after : List α} {x : α}
    (h : xs ++ ys = before ++ x :: after) :
    (∃ more, xs = before ++ x :: more ∧ after = more ++ ys) ∨
      ∃ more, before = xs ++ more ∧ ys = more ++ x :: after := by
  rcases List.append_eq_append_iff.mp h with ⟨more, hb, hy⟩ | ⟨more, hx, ha⟩
  · exact .inr ⟨more, hb, hy⟩
  · cases more with
    | nil => exact .inr ⟨[], by simp_all, by simp_all⟩
    | cons first more =>
      obtain ⟨rfl, rfl⟩ := List.cons.inj ha
      exact .inl ⟨more, hx, rfl⟩

namespace Course

/-! ## How a course goes on -/

/-- A course goes on, and no drain starts or ends: whose turn it was, what ran and what fired. -/
structure Grows (c next : Course) (turned ran fired : List Nat) : Prop where
  named : Named c.scheduler → Named next.scheduler
  requests : c.scheduler.requests <+: next.scheduler.requests
  log : ∃ more, next.log = c.log ++ more ∧ (∀ m ∈ more, ¬ m.what.IsBound) ∧
    turnsIn (whats more) = turned ∧ ranIn (whats more) = ran ∧ firedIn (whats more) = fired

variable {c next last : Course} {turned ran fired moreTurned moreRan moreFired : List Nat}

theorem Grows.refl (c : Course) : c.Grows c [] [] [] :=
  ⟨id, List.prefix_refl _, [], (List.append_nil _).symm, nofun, rfl, rfl, rfl⟩

/-- A course goes on in two stretches. -/
theorem Grows.trans (h : c.Grows next turned ran fired)
    (h' : next.Grows last moreTurned moreRan moreFired) :
    c.Grows last (turned ++ moreTurned) (ran ++ moreRan) (fired ++ moreFired) := by
  obtain ⟨d, hd, hquiet, rfl, rfl, rfl⟩ := h.log
  obtain ⟨d', hd', hquiet', rfl, rfl, rfl⟩ := h'.log
  refine ⟨h'.named ∘ h.named, h.requests.trans h'.requests, d ++ d', ?_, ?_, by simp, by simp,
    by simp⟩
  · rw [hd', hd, List.append_assoc]
  · intro m hm
    rcases List.mem_append.mp hm with hm | hm
    · exact hquiet m hm
    · exact hquiet' m hm

/-- What has happened stays so. -/
theorem Grows.mem_past (h : c.Grows next turned ran fired) {what : Happening}
    (hm : what ∈ c.past) : what ∈ next.past := by
  obtain ⟨more, hl, -⟩ := h.log
  rw [past, hl, whats_append]
  exact List.mem_append_left _ hm

/-- A course goes on when a happening other than the start or end of a drain is noted. -/
theorem note_grows {what : Happening} {after : Scheduler} (h : Happens c.scheduler what after)
    (hb : ¬ what.IsBound) :
    c.Grows (c.note what after) what.turn?.toList what.ran?.toList what.fired?.toList :=
  ⟨h.named, h.requests_mono, [⟨c.scheduler, what⟩], rfl, by simpa using hb, by simp [whats],
    by simp [whats], by simp [whats]⟩

/-- A course goes on with every action, and no timer fires and no callback runs. -/
theorem act_grows (c : Course) (action : Action) : c.Grows (c.act action) [] [] [] := by
  obtain he | ⟨what, next, h, hdone, he⟩ := c.act_cases action
  · rw [he]
    exact .refl c
  · rw [he]
    cases what with
    | requested | cancelled | counted => exact note_grows h id
    | _ => exact hdone.elim

/-- Those of the timers fire that belong to requests. -/
theorem firingAll_grows (c : Course) (timers : List Timer) :
    ∃ more, (∀ t ∈ more, t ∈ timers ∧ t.request < c.scheduler.requests.length) ∧
      c.Grows (c.firingAll timers) [] [] (more.map (·.id)) ∧
      (c.firingAll timers).scheduler = c.scheduler.fireAll more := by
  induction timers generalizing c with
  | nil => exact ⟨[], nofun, .refl c, rfl⟩
  | cons t rest ih =>
    obtain ⟨more, hmore, hg, hs⟩ := ih (c.firing t)
    by_cases hk : c.scheduler.isKnown t
    · have hfire : c.firing t = c.note (.fired t.id) (c.scheduler.fire t) := if_pos hk
      have hlt : t.request < c.scheduler.requests.length := by
        rw [isKnown, Option.any_eq_true] at hk
        obtain ⟨handle, hr, -⟩ := hk
        exact (List.getElem?_eq_some_iff.mp hr).1
      rw [hfire] at hmore hg hs
      refine ⟨t :: more, ?_, ?_, ?_⟩
      · intro other hm
        rcases List.mem_cons.mp hm with rfl | hm
        · exact ⟨List.mem_cons_self, hlt⟩
        · exact ⟨List.mem_cons_of_mem _ (hmore other hm).1, (hmore other hm).2⟩
      · rw [firingAll, List.foldl_cons, hfire]
        exact (note_grows (.fired hk) id).trans hg
      · rw [firingAll, List.foldl_cons, hfire]
        exact hs
    · have hsame : c.firing t = c := if_neg hk
      rw [hsame] at hmore hg hs
      rw [firingAll, List.foldl_cons, hsame]
      exact ⟨more, fun other hm => ⟨List.mem_cons_of_mem _ (hmore other hm).1, (hmore other hm).2⟩,
        hg, hs⟩

/-- A course goes on with every event, and no callback runs. -/
theorem occur_grows (c : Course) (event : Event) :
    ∃ fired, c.Grows (c.occur event) [] [] fired := by
  cases event with
  | action action => exact ⟨[], c.act_grows action⟩
  | time nanos =>
    exact ⟨[], id, List.prefix_refl _, [], (List.append_nil _).symm, nofun, rfl, rfl, rfl⟩
  | firing t =>
    obtain ⟨more, -, hg, -⟩ := c.firingAll_grows [t]
    exact ⟨_, hg⟩

theorem occurAll_grows (c : Course) (events : List Event) :
    ∃ fired, c.Grows (c.occurAll events) [] [] fired := by
  induction events generalizing c with
  | nil => exact ⟨[], .refl c⟩
  | cons event rest ih =>
    obtain ⟨first, hfirst⟩ := c.occur_grows event
    obtain ⟨more, hmore⟩ := ih (c.occur event)
    exact ⟨first ++ more, hfirst.trans hmore⟩

/-! ## Timers that fire in the middle -/

/-- A course is where a scheduler is, but for timers that fired besides. -/
structure Trails (amid : Nat → List Timer) (s : Scheduler) (c : Course) (timers : List Timer) :
    Prop where
  known : ∀ t ∈ timers, t.request < s.requests.length
  given : ∀ t ∈ timers, ∃ n, t ∈ amid n
  scheduler : c.scheduler = s.fireAll timers

namespace Trails

variable {amid : Nat → List Timer} {s : Scheduler} {timers : List Timer}

theorem refl (amid : Nat → List Timer) (c : Course) : Trails amid c.scheduler c [] :=
  ⟨nofun, nofun, rfl⟩

theorem requests (h : Trails amid s c timers) : c.scheduler.requests = s.requests := by
  rw [h.scheduler, requests_fireAll]

/-- Course and scheduler act in step. -/
theorem act (h : Trails amid s c timers) (action : Action) :
    Trails amid (s.perform action).2 (c.act action) timers := by
  have hs : (c.act action).scheduler = (s.perform action).2.fireAll timers := by
    rw [act_scheduler, h.scheduler, perform_fireAll h.known]
  have hkept : s.requests <+: (s.perform action).2.requests := by
    have hg := (c.act_grows action).requests
    rwa [h.requests, hs, requests_fireAll] at hg
  exact ⟨fun t hm => Nat.lt_of_lt_of_le (h.known t hm) hkept.length_le, h.given, hs⟩

/-- More timers may fire besides. -/
theorem firingAll (h : Trails amid s c timers) (n : Nat) :
    ∃ more, c.Grows (c.firingAll (amid n)) [] [] (more.map (·.id)) ∧
      Trails amid s (c.firingAll (amid n)) (timers ++ more) := by
  obtain ⟨more, hmore, hg, hs⟩ := c.firingAll_grows (amid n)
  refine ⟨more, hg, ?_, ?_, ?_⟩
  · intro t hm
    rcases List.mem_append.mp hm with hm | hm
    · exact h.known t hm
    · rw [← h.requests]
      exact (hmore t hm).2
  · intro t hm
    rcases List.mem_append.mp hm with hm | hm
    · exact h.given t hm
    · exact ⟨n, (hmore t hm).1⟩
  · rw [hs, h.scheduler, fireAll_append]

/-- Course and scheduler act in step over the body of a callback, while timers fire. -/
theorem actAll (h : Trails amid s c timers) (actions : List Action) :
    ∃ more, c.Grows (c.actAll amid actions) [] [] (more.map (·.id)) ∧
      Trails amid (s.performAll actions).2 (c.actAll amid actions) (timers ++ more) := by
  induction actions generalizing c s timers with
  | nil => exact ⟨[], .refl c, by simpa [Course.actAll, performAll] using h⟩
  | cons action rest ih =>
    obtain ⟨first, hg, ht⟩ := (h.act action).firingAll c.log.length
    obtain ⟨more, hg', ht'⟩ := ih ht
    refine ⟨first ++ more, ?_, ?_⟩
    · rw [List.map_append]
      exact ((c.act_grows action).trans hg).trans hg'
    · rwa [List.append_assoc] at ht'

/-- The turn of an entry is that of its callback, which runs if `runFired` runs it. -/
theorem turn (h : Trails amid s c timers) (fired : Fired) :
    ∃ more ran, c.Grows (c.turn amid fired) [fired.id] ran (more.map (·.id)) ∧
      Trails amid (s.runFired fired).2 (c.turn amid fired) (timers ++ more) ∧
      (Named s → (s.runFired fired).1.toList.map s.idOf = ran.map some) := by
  have hpending : c.scheduler.pending = s.pending := by rw [h.scheduler, pending_fireAll]
  cases hp : Keyed.get? s.pending fired.id with
  | none =>
    have hskip : Trails amid s (c.note (.turn fired.id false) c.scheduler) timers :=
      ⟨h.known, h.given, h.scheduler⟩
    have hnote := note_grows (c := c) (.skipped (hpending ▸ hp)) id
    obtain ⟨more, hg, ht⟩ := hskip.firingAll c.log.length
    have he : c.turn amid fired =
        (c.note (.turn fired.id false) c.scheduler).firingAll (amid c.log.length) := by
      simp [Course.turn, hpending, hp]
    have hrun : s.runFired fired = (none, s) := by simp [runFired, hp]
    rw [he, hrun]
    exact ⟨more, [], hnote.trans hg, ht, fun _ => rfl⟩
  | some entry =>
    have hran : Trails amid { s with pending := Keyed.erase s.pending fired.id }
        (c.note (.turn fired.id true)
          { c.scheduler with pending := Keyed.erase c.scheduler.pending fired.id }) timers := by
      refine ⟨h.known, h.given, ?_⟩
      rw [← erase_fireAll, ← h.scheduler, ← hpending]
      rfl
    have hnote := note_grows (c := c) (.ran (hpending ▸ hp)) id
    obtain ⟨first, hg, ht⟩ := hran.firingAll c.log.length
    obtain ⟨more, hg', ht'⟩ := ht.actAll entry.body
    have he : c.turn amid fired = ((c.note (.turn fired.id true)
        { c.scheduler with pending := Keyed.erase c.scheduler.pending fired.id }).firingAll
          (amid c.log.length)).actAll amid entry.body := by
      simp [Course.turn, hpending, hp]
    have hrun : s.runFired fired =
        (some ⟨entry.request, s.tickOf entry fired.timedOut,
          ({ s with pending := Keyed.erase s.pending fired.id }.performAll entry.body).1⟩,
        ({ s with pending := Keyed.erase s.pending fired.id }.performAll entry.body).2) := by
      simp [runFired, hp]
    rw [he, hrun]
    refine ⟨first ++ more, [fired.id], ?_, ?_, ?_⟩
    · simpa [turn?, ran?, fired?] using (hnote.trans hg).trans hg'
    · rwa [List.append_assoc] at ht'
    · intro hn
      simp [idOf, hn fired.id entry hp]

/-- The turns of a queue are in its order, and what runs is what `runAll` answers. -/
theorem turns (h : Trails amid s c timers) (queue : List Fired) :
    ∃ more ran, c.Grows (c.turns amid queue) (queue.map (·.id)) ran (more.map (·.id)) ∧
      Trails amid (s.runAll queue).2 (c.turns amid queue) (timers ++ more) ∧
      (Named s → (s.runAll queue).1.map (s.runAll queue).2.idOf = ran.map some) := by
  induction queue generalizing c s timers with
  | nil => exact ⟨[], [], .refl c, by simpa [Course.turns, runAll] using h, fun _ => rfl⟩
  | cons fired rest ih =>
    obtain ⟨first, ran, hg, ht, hfirst⟩ := h.turn fired
    obtain ⟨more, moreRan, hg', ht', hmore⟩ := ih ht
    refine ⟨first ++ more, ran ++ moreRan, ?_, ?_, ?_⟩
    · rw [List.map_append]
      exact hg.trans hg'
    · rwa [List.append_assoc] at ht'
    · intro hn
      have hkept : (s.runFired fired).2.requests <+: (s.runAll (fired :: rest)).2.requests := by
        have hrest := hg'.requests
        rwa [ht.requests, ht'.requests] at hrest
      have hstart : s.requests <+: (s.runFired fired).2.requests := by
        have hturn := hg.requests
        rwa [h.requests, ht.requests] at hturn
      have hnext : Named (s.runFired fired).2 := by
        have hnamed := hg.named (by rwa [h.scheduler, named_fireAll])
        rwa [ht.scheduler, named_fireAll] at hnamed
      simp only [runAll, List.map_append]
      exact congrArg₂ (· ++ ·) (map_idOf_mono (hfirst hn) (hstart.trans hkept)) (hmore hnext)

end Trails

/-! ## Drains in a course -/

/-- A drain that started at `s`, from what follows its start, and the timers that fired in the
middle of it. -/
def DrainedFrom (s : Scheduler) (rest : List Moment) : Prop :=
  ∃ during timers later, rest =
      during ++ ⟨s.runDue.2.fireAll timers, .returns s.runDue.1.length⟩ :: later ∧
    (∀ m ∈ during, ¬ m.what.IsBound) ∧
    timers.map (·.id) = firedIn (whats during) ∧
    turnsIn (whats during) = s.fired.map (·.id) ∧
    s.runDue.1.map s.runDue.2.idOf = (ranIn (whats during)).map some

/-- Each drain of a course is the one that `runDue` does. -/
def Drained (c : Course) : Prop :=
  ∀ past s rest, c.log = past ++ ⟨s, .drains⟩ :: rest → DrainedFrom s rest

/-- Drains are left as they are when a course goes on without one. -/
theorem Drained.grows (hd : c.Drained) (h : c.Grows next turned ran fired) : next.Drained := by
  obtain ⟨more, hl, hquiet, -⟩ := h.log
  intro past s rest hs
  rw [hl] at hs
  rcases split_append hs with ⟨between, hb, rfl⟩ | ⟨between, -, hm⟩
  · obtain ⟨during, timers, later, rfl, hrest⟩ := hd past s between hb
    exact ⟨during, timers, later ++ more, by simp, hrest⟩
  · exact absurd trivial (hquiet ⟨s, .drains⟩ (by simp [hm]))

/-- What a drain adds to a course: its start, what happens in it, and its end where `runDue` and
the timers that fired lead. -/
theorem drain_eq (c : Course) (amid : Nat → List Timer) (hn : Named c.scheduler) :
    ∃ timers, (∀ t ∈ timers, ∃ n, t ∈ amid n) ∧
      (c.drain amid).scheduler = c.scheduler.runDue.2.fireAll timers ∧
      ∃ during, (c.drain amid).log = c.log ++ ⟨c.scheduler, .drains⟩ :: (during ++
          [⟨(c.drain amid).scheduler, .returns c.scheduler.runDue.1.length⟩]) ∧
        (∀ m ∈ during, ¬ m.what.IsBound) ∧
        timers.map (·.id) = firedIn (whats during) ∧
        turnsIn (whats during) = c.scheduler.fired.map (·.id) ∧
        c.scheduler.runDue.1.map c.scheduler.runDue.2.idOf = (ranIn (whats during)).map some := by
  have hstart : Happens c.scheduler .drains { c.scheduler with fired := [] } := .drains
  obtain ⟨first, hg, ht⟩ := (Trails.refl amid (c.note .drains
    { c.scheduler with fired := [] })).firingAll c.log.length
  obtain ⟨more, ran, hg', ht', hran⟩ := ht.turns c.scheduler.fired
  obtain ⟨during, hl, hquiet, hturns, rfl, hfired⟩ := (hg.trans hg').log
  refine ⟨[] ++ first ++ more, ht'.given, ht'.scheduler, during, ?_, hquiet, ?_, hturns,
    hran (hstart.named hn)⟩
  · simp only [drain, note] at hl ⊢
    simp [hl]
  · simpa using hfired.symm

/-- A drain of a course is the one that the program does. -/
theorem Drained.drain (hd : c.Drained) (hn : Named c.scheduler) (amid : Nat → List Timer) :
    (c.drain amid).Drained := by
  obtain ⟨timers, -, hlast, during, hlog, hquiet, hrest⟩ := c.drain_eq amid hn
  intro past s rest hs
  rw [hlog] at hs
  rcases split_append hs with ⟨between, hb, rfl⟩ | ⟨between, -, hm⟩
  · obtain ⟨d, fired, later, rfl, hold⟩ := hd past s between hb
    exact ⟨d, fired, _, List.append_assoc _ _ _, hold⟩
  · cases between with
    | nil =>
      obtain ⟨hfirst, rfl⟩ := List.cons.inj hm
      obtain rfl : c.scheduler = s := congrArg Moment.before hfirst
      rw [hlast]
      exact ⟨during, timers, [], rfl, hquiet, hrest⟩
    | cons first between =>
      have hin : (⟨s, .drains⟩ : Moment) ∈ during ++
          [⟨(c.drain amid).scheduler, .returns c.scheduler.runDue.1.length⟩] := by
        rw [(List.cons.inj hm).2]
        simp
      rcases List.mem_append.mp hin with hin | hin
      · exact absurd trivial (hquiet _ hin)
      · cases List.mem_singleton.mp hin

/-- A drain in which no timer fires leaves the scheduler that `runDue` leaves. -/
theorem drain_scheduler_of_calm (hn : Named c.scheduler) :
    (c.drain fun _ => []).scheduler = c.scheduler.runDue.2 := by
  obtain ⟨timers, hgiven, hs, -⟩ := c.drain_eq (fun _ => []) hn
  have hnone : timers = [] := List.eq_nil_iff_forall_not_mem.mpr fun t hm => by
    obtain ⟨_, hin⟩ := hgiven t hm
    cases hin
  rw [hs, hnone]
  rfl

end Course

end PageHost.Scheduler
