import PageHost.Proofs.Scheduler.Course
/-!
# The life of a callback

A callback is pending from its request on until it runs or is cancelled, and only one of
these ever happens. That is so at every moment, also while a drain is under way: each thing
that can happen keeps the pending callbacks in step with what has happened before.
Ids are handed out in order, so no two requests get the same one before ids start over.
-/

namespace PageHost.Scheduler

open Happening

/-- What has become of a callback. -/
inductive Stage where
  | pending
  | ran
  | cancelled
deriving Repr, DecidableEq

/-- Whether a callback is at a stage: it is among the pending callbacks, it has run, or it has
been cancelled. -/
def Stage.Holds (past : List Happening) (s : Scheduler) (id : Nat) : Stage → Prop
  | .pending => Keyed.has s.pending id
  | .ran => .turn id true ∈ past
  | .cancelled => .cancelled id true ∈ past

/-- The callbacks that were requested and are pending. -/
def pendingIn (past : List Happening) (s : Scheduler) : List Nat :=
  (requestedIn past).filter (Keyed.has s.pending)

/-- A scheduler is in step with what has happened. -/
structure InStep (past : List Happening) (s : Scheduler) : Prop where
  /-- The handles given out are those of the requested callbacks. -/
  requests : s.requests.map (·.id) = requestedIn past
  /-- Each requested callback is at one stage. -/
  stage : ∀ id, .requested id ∈ past → ∃! stage, Stage.Holds past s id stage
  /-- A cancellation would succeed if its callback is pending, and only then. -/
  cancel : ∀ handle ∈ s.requests,
    (s.cancel handle).1 = true ↔ Stage.pending.Holds past s handle.id
  /-- The count is the number of callbacks that are pending. -/
  count : s.pendingCount = (pendingIn past s).length
  /-- The queue is what has fired since the last drain. -/
  queue : s.fired.map (·.id) = queued past

/-- What may happen next. -/
def Allowed (past : List Happening) (s : Scheduler) : Happening → Prop
  | .requested id => .requested id ∉ past
  | .cancelled id done => .requested id ∈ past ∧ (done = true ↔ Stage.pending.Holds past s id)
  | .counted count => count = (pendingIn past s).length
  | .fired id => .requested id ∈ past
  | .turn id runs => .fired id ∈ past ∧ (runs = true ↔ Stage.pending.Holds past s id) ∧
      (runs = true → .turn id true ∉ past ∧ .cancelled id true ∉ past)
  | .drains | .returns _ => True

/-- Ids have not started over: fewer than 2^32 - 1 requests. -/
def Few (s : Scheduler) : Prop := s.requests.length < 4294967295

/-- Where there are few requests there were few before. -/
theorem Happens.few {s next : Scheduler} {what : Happening} (h : Happens s what next)
    (hf : Few next) : Few s := Nat.lt_of_le_of_lt h.requests_mono.length_le hf

/-- A cancellation succeeds when its callback is pending. -/
theorem cancel_iff (s : Scheduler) (handle : CallbackHandle) :
    (s.cancel handle).1 = true ↔ Keyed.has s.pending handle.id = true := by
  unfold cancel Keyed.has
  cases Keyed.get? s.pending handle.id <;> simp

/-! ## What each happening keeps -/

/-- The queue follows what has happened. -/
theorem Happens.queue {past : List Happening} {s next : Scheduler} {what : Happening}
    (h : Happens s what next) (hq : s.fired.map (·.id) = queued past) :
    next.fired.map (·.id) = queued (past ++ [what]) := by
  rw [queued_concat, ← hq]
  cases h with
  | fired => exact List.map_append
  | drains => rfl
  | _ => rfl

/-- A scheduler keeps track of what has happened. -/
structure Tracks (past : List Happening) (s : Scheduler) : Prop where
  ids : requestedIn past = s.requests.map (·.id)
  inOrder : requestedIn past = List.range' 1 s.requests.length
  nextId : s.nextId = s.requests.length + 1
  distinct : Keyed.Distinct s.pending
  pending : ∀ id, Keyed.has s.pending id = true ↔
    .requested id ∈ past ∧ .turn id true ∉ past ∧ .cancelled id true ∉ past
  /-- What has run was not cancelled. -/
  apart : ∀ id, .turn id true ∈ past → .cancelled id true ∉ past
  /-- Nothing happens to a callback before its request. -/
  known : ∀ id, .fired id ∈ past ∨ .turn id true ∈ past ∨ .cancelled id true ∈ past →
    .requested id ∈ past

namespace Tracks

variable {past : List Happening} {s next : Scheduler} {what : Happening}

/-- The next id is new. -/
theorem fresh (ht : Tracks past s) : .requested s.nextId ∉ past := by
  rw [← mem_requestedIn, ht.inOrder, ht.nextId, List.mem_range'_1]
  omega

/-- A request goes by an id that was handed out. -/
theorem requested_of_mem (ht : Tracks past s) {handle : CallbackHandle}
    (hm : handle ∈ s.requests) : .requested handle.id ∈ past := by
  rw [← mem_requestedIn, ht.ids]
  exact List.mem_map_of_mem hm

/-- A known timer belongs to a recorded request. -/
theorem requested_of_isKnown (ht : Tracks past s) {t : Timer} (hk : s.isKnown t) :
    .requested t.id ∈ past := by
  rw [isKnown, Option.any_eq_true] at hk
  obtain ⟨handle, hr, hid⟩ := hk
  rw [← of_decide_eq_true hid]
  exact ht.requested_of_mem (List.mem_of_getElem? hr)

/-- What neither adds a pending callback nor takes one away. -/
theorem idle (ht : Tracks past s) (hr : next.requests = s.requests) (hi : next.nextId = s.nextId)
    (hp : next.pending = s.pending)
    (hw : ∀ id, what ≠ .requested id ∧ what ≠ .turn id true ∧ what ≠ .cancelled id true)
    (hf : ∀ id, what = .fired id → .requested id ∈ past) : Tracks (past ++ [what]) next := by
  have hsame : ∀ id, (.requested id ∈ past ++ [what] ↔ .requested id ∈ past) ∧
      (.turn id true ∈ past ++ [what] ↔ .turn id true ∈ past) ∧
      (.cancelled id true ∈ past ++ [what] ↔ .cancelled id true ∈ past) := by
    intro id
    obtain ⟨hn, ht, hc⟩ := hw id
    simp [hn.symm, ht.symm, hc.symm]
  have hids : requestedIn (past ++ [what]) = requestedIn past := by
    rw [requestedIn_append, requestedIn_singleton]
    cases what with
    | requested id => exact absurd rfl (hw id).1
    | _ => exact List.append_nil _
  refine ⟨hids.trans (hr ▸ ht.ids), hids.trans (hr ▸ ht.inOrder), ?_, hp ▸ ht.distinct, ?_, ?_, ?_⟩
  · rw [hi, hr, ht.nextId]
  · intro id
    rw [hp, (hsame id).1, (hsame id).2.1, (hsame id).2.2]
    exact ht.pending id
  · intro id
    rw [(hsame id).2.1, (hsame id).2.2]
    exact ht.apart id
  · intro id
    rw [(hsame id).1, (hsame id).2.1, (hsame id).2.2]
    rintro (h | h)
    · rcases List.mem_append.mp h with h | h
      · exact ht.known id (.inl h)
      · exact hf id (List.mem_singleton.mp h).symm
    · exact ht.known id (.inr h)

/-- A request adds a pending callback under a new id. -/
theorem request (ht : Tracks past s) (kind : CallbackKind) (delay : Nat) (timedOut : Bool)
    (deadline : Option Nat) (degraded : Bool) (body : List Action)
    (hfew : Few (s.schedule kind delay timedOut deadline degraded body).2) :
    Tracks (past ++ [.requested s.nextId])
      (s.schedule kind delay timedOut deadline degraded body).2 := by
  have hlen : s.requests.length + 1 < 4294967295 := by simpa [Few, schedule] using hfew
  have hnew : .turn s.nextId true ∉ past ∧ .cancelled s.nextId true ∉ past :=
    ⟨fun h => ht.fresh (ht.known _ (.inr (.inl h))), fun h => ht.fresh (ht.known _ (.inr (.inr h)))⟩
  constructor
  · simp [requested?, ht.ids, schedule]
  · simp [requested?, ht.inOrder, schedule, List.range'_concat, ht.nextId,
      Nat.add_comm]
  · simp only [schedule, idAfter, ht.nextId, List.length_append, List.length_singleton]
    omega
  · exact Keyed.distinct_set ht.distinct _ _
  · intro id
    have hold := ht.pending id
    by_cases he : s.nextId = id
    · subst he
      simp [schedule, Keyed.has, Keyed.get?_set, hnew]
    · simpa [schedule, Keyed.has, Keyed.get?_set, he, Ne.symm he] using hold
  · intro id
    simpa using ht.apart id
  · intro id h
    refine List.mem_append_left _ (ht.known id ?_)
    simpa using h

/-- What takes a pending callback away: it runs or is cancelled. -/
theorem leave (ht : Tracks past s) {id : Nat} (hin : Keyed.has s.pending id = true)
    (hw : what = .turn id true ∨ what = .cancelled id true) (hr : next.requests = s.requests)
    (hi : next.nextId = s.nextId) (hp : next.pending = Keyed.erase s.pending id) :
    Tracks (past ++ [what]) next := by
  obtain ⟨hreq, hran, hcancelled⟩ := (ht.pending id).mp hin
  have hids : requestedIn (past ++ [what]) = requestedIn past := by
    rcases hw with rfl | rfl <;> simp [requested?]
  refine ⟨hids.trans (hr ▸ ht.ids), hids.trans (hr ▸ ht.inOrder), ?_,
    hp ▸ Keyed.distinct_erase ht.distinct id, ?_, ?_, ?_⟩
  · rw [hi, hr, ht.nextId]
  · intro other
    have hold := ht.pending other
    rw [hp]
    by_cases he : id = other
    · subst he
      rcases hw with rfl | rfl <;> simp [Keyed.has, Keyed.get?_erase]
    · have hne : other ≠ id := Ne.symm he
      rcases hw with rfl | rfl <;> simpa [Keyed.has, Keyed.get?_erase, he, hne] using hold
  · intro other
    have hold := ht.apart other
    rcases hw with rfl | rfl
    · grind
    · grind
  · intro other h
    have hold := ht.known other
    rcases hw with rfl | rfl
    · grind
    · grind

/-- A scheduler goes on keeping track with each happening. -/
theorem step (ht : Tracks past s) (h : Happens s what next) (hfew : Few next) :
    Tracks (past ++ [what]) next := by
  cases h with
  | requested => exact ht.request _ _ _ _ _ _ hfew
  | cancelled hm hp => exact ht.leave (by simp [Keyed.has, hp]) (.inr rfl) rfl rfl rfl
  | ran hp => exact ht.leave (by simp [Keyed.has, hp]) (.inl rfl) rfl rfl rfl
  | fired hk =>
    refine ht.idle rfl rfl rfl (by simp) ?_
    rintro id h
    cases h
    exact ht.requested_of_isKnown hk
  | _ => exact ht.idle rfl rfl rfl (by simp) (by simp)

/-- Each requested callback is at one stage. -/
theorem exists_unique_stage (ht : Tracks past s) {id : Nat} (hr : .requested id ∈ past) :
    ∃! stage, Stage.Holds past s id stage := by
  have hp := ht.pending id
  have ha := ht.apart id
  by_cases hran : .turn id true ∈ past
  · refine ⟨.ran, hran, ?_⟩
    rintro (_ | _ | _) hs
    · exact absurd hran (hp.mp hs).2.1
    · rfl
    · exact absurd hs (ha hran)
  · by_cases hcancelled : .cancelled id true ∈ past
    · refine ⟨.cancelled, hcancelled, ?_⟩
      rintro (_ | _ | _) hs
      · exact absurd hcancelled (hp.mp hs).2.2
      · exact absurd hs hran
      · rfl
    · refine ⟨.pending, hp.mpr ⟨hr, hran, hcancelled⟩, ?_⟩
      rintro (_ | _ | _) hs
      · rfl
      · exact absurd hs hran
      · exact absurd hs hcancelled

/-- The pending callbacks are counted right: each is entered once, under the id of its request. -/
theorem pendingCount_eq (ht : Tracks past s) : s.pendingCount = (pendingIn past s).length := by
  have hnodup : (pendingIn past s).Nodup := by
    rw [pendingIn, ht.inOrder]
    exact List.Sublist.nodup List.filter_sublist List.nodup_range'
  have hmem : ∀ id, id ∈ s.pending.map Prod.fst ↔ id ∈ pendingIn past s := by
    intro id
    rw [Keyed.mem_keys_iff, pendingIn, List.mem_filter, mem_requestedIn]
    exact ⟨fun h => ⟨((ht.pending id).mp h).1, h⟩, fun h => h.2⟩
  have hperm := (List.perm_ext_iff_of_nodup ht.distinct hnodup).mpr hmem
  rw [pendingCount, ← hperm.length_eq, List.length_map]

/-- A scheduler that keeps track of the past is in step with it. -/
theorem inStep (ht : Tracks past s) (hq : s.fired.map (·.id) = queued past) : InStep past s :=
  ⟨ht.ids.symm, fun _ => ht.exists_unique_stage, fun handle _ => s.cancel_iff handle,
    ht.pendingCount_eq, hq⟩

/-- What happens to a scheduler that keeps track of the past is allowed. -/
theorem allowed (ht : Tracks past s) (h : Happens s what next)
    (hd : Due past what) : Allowed past s what := by
  cases h with
  | requested => exact ht.fresh
  | refused hm hp => exact ⟨ht.requested_of_mem hm, by simp [Stage.Holds, Keyed.has, hp]⟩
  | cancelled hm hp => exact ⟨ht.requested_of_mem hm, by simp [Stage.Holds, Keyed.has, hp]⟩
  | counted => exact ht.pendingCount_eq
  | fired hk => exact ht.requested_of_isKnown hk
  | skipped hp =>
    exact ⟨hd _ rfl, by simp [Stage.Holds, Keyed.has, hp], by simp⟩
  | @ran id _ hp =>
    have hin : Keyed.has s.pending id = true := by simp [Keyed.has, hp]
    exact ⟨hd _ rfl, by simp [Stage.Holds, hin], fun _ => ((ht.pending id).mp hin).2⟩
  | drains => trivial
  | returns => trivial

end Tracks

end PageHost.Scheduler
