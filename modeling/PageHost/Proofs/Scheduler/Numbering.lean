import PageHost.Proofs.Scheduler.Law
/-!
# Ids that start over

Requests are numbered for good, but their ids start over after 2^32 - 1 of them. A callback is
kept under its id alone. So a request takes the place of the callback that was requested a whole
lap before, if that one is still pending, and a handle goes for whatever callback is pending
under its id, laps after its own. Short of that, nothing is mistaken for anything else.
-/

namespace PageHost.Scheduler

/-- How many ids there are: those of 32 bits, without 0. -/
def idCount : Nat := 4294967295

/-- The id that a request gets by its number. -/
def idOfRequest (request : Nat) : Nat := request % idCount + 1

/-- Whether the callback of a request is pending. -/
def Awaits (s : Scheduler) (request : Nat) : Prop :=
  ∃ id entry, Keyed.get? s.pending id = some entry ∧ entry.request = request

/-- The schedulers that a course passes: the one before each happening, and the last. -/
def Course.Passes (c : Course) (s : Scheduler) : Prop := s = c.scheduler ∨ ∃ m ∈ c.log, s = m.before

/-! ## Numbers and ids -/

/-- The next request gets the next id. -/
theorem idAfter_idOfRequest (request : Nat) :
    idAfter (idOfRequest request) = idOfRequest (request + 1) := by
  simp only [idAfter, idOfRequest, idCount]
  omega

/-- Two requests share an id if whole laps are between them. -/
theorem idOfRequest_eq_iff {request later : Nat} (hle : request ≤ later) :
    idOfRequest later = idOfRequest request ↔ ∃ laps, later = request + laps * idCount := by
  simp only [idOfRequest, idCount]
  constructor
  · intro he
    exact ⟨(later - request) / 4294967295, by omega⟩
  · rintro ⟨laps, rfl⟩
    omega

/-- Handles and pending callbacks have the ids of their requests, and no pending callback is
older than a lap. -/
structure Numbered (s : Scheduler) : Prop where
  nextId : s.nextId = idOfRequest s.requests.length
  handles : ∀ request handle, s.requests[request]? = some handle → handle.id = idOfRequest request
  entries : ∀ id entry, Keyed.get? s.pending id = some entry →
    id = idOfRequest entry.request ∧ entry.request < s.requests.length ∧
      s.requests.length ≤ entry.request + idCount

namespace Numbered

variable {s next : Scheduler} {what : Happening}

/-- Pending callbacks may go, as long as no request is made. -/
theorem of_sub (hn : Numbered s) (hi : next.nextId = s.nextId) (hr : next.requests = s.requests)
    (hp : ∀ id entry, Keyed.get? next.pending id = some entry →
      Keyed.get? s.pending id = some entry) : Numbered next := by
  refine ⟨?_, ?_, ?_⟩
  · rw [hi, hr]
    exact hn.nextId
  · rw [hr]
    exact hn.handles
  · intro id entry h
    rw [hr]
    exact hn.entries id entry (hp id entry h)

/-- A request keeps the numbering: what is a whole lap old is under the id that the new request
gets. -/
theorem schedule (hn : Numbered s) (kind : CallbackKind) (delay : Nat) (timedOut : Bool)
    (deadline : Option Nat) (degraded : Bool) (body : List Action) :
    Numbered (s.schedule kind delay timedOut deadline degraded body).2 := by
  have hlength : (s.schedule kind delay timedOut deadline degraded body).2.requests.length =
      s.requests.length + 1 := by simp [Scheduler.schedule]
  refine ⟨?_, ?_, ?_⟩
  · rw [hlength, ← idAfter_idOfRequest, ← hn.nextId]
    rfl
  · intro request handle hr
    rw [Scheduler.schedule, List.getElem?_append] at hr
    split at hr
    · exact hn.handles request handle hr
    · next hlt =>
      rw [List.getElem?_singleton] at hr
      split at hr
      · have hrequest : request = s.requests.length := by omega
        obtain rfl := Option.some.inj hr
        rw [hrequest]
        exact hn.nextId
      · cases hr
  · intro id entry hp
    rw [hlength]
    rw [Scheduler.schedule, Keyed.get?_set] at hp
    split at hp
    · next hid =>
      obtain rfl := Option.some.inj hp
      refine ⟨hid ▸ hn.nextId, Nat.lt_succ_self _, ?_⟩
      simp only [idCount]
      omega
    · next hid =>
      obtain ⟨he, hlt, hle⟩ := hn.entries id entry hp
      have hlap : s.requests.length ≠ entry.request + idCount := by
        intro hlap
        have hsame : idOfRequest s.requests.length = idOfRequest entry.request :=
          (idOfRequest_eq_iff (Nat.le_of_lt hlt)).mpr ⟨1, by omega⟩
        rw [hn.nextId, hsame] at hid
        exact hid he.symm
      exact ⟨he, by omega, by omega⟩

/-- Every happening keeps the numbering. -/
theorem step (hn : Numbered s) (h : Happens s what next) : Numbered next := by
  cases h with
  | requested kind delay timedOut deadline degraded body =>
    exact hn.schedule kind delay timedOut deadline degraded body
  | cancelled | ran => exact hn.of_sub rfl rfl fun _ _ => Keyed.get?_of_erase
  | _ => exact hn.of_sub rfl rfl fun _ _ h => h

/-- The callback of a request is pending under its id. -/
theorem awaits_iff (hn : Numbered s) (request : Nat) :
    s.Awaits request ↔
      ∃ entry, Keyed.get? s.pending (idOfRequest request) = some entry ∧ entry.request = request := by
  constructor
  · rintro ⟨id, entry, hp, rfl⟩
    obtain ⟨rfl, -⟩ := hn.entries id entry hp
    exact ⟨entry, hp, rfl⟩
  · rintro ⟨entry, hp, he⟩
    exact ⟨_, entry, hp, he⟩

/-- What is awaited was requested, and not more than a lap ago. -/
theorem recent (hn : Numbered s) {request : Nat} (ha : s.Awaits request) :
    request < s.requests.length ∧ s.requests.length ≤ request + idCount := by
  obtain ⟨id, entry, hp, rfl⟩ := ha
  exact (hn.entries id entry hp).2

/-- A pending callback belongs to a request with its id. -/
theorem awaits_of_get? (hn : Numbered s) {request : Nat} {entry : PendingCallback}
    (hp : Keyed.get? s.pending (idOfRequest request) = some entry) :
    s.Awaits entry.request ∧ idOfRequest entry.request = idOfRequest request :=
  ⟨⟨_, entry, hp, rfl⟩, (hn.entries _ entry hp).1.symm⟩

/-- The next id is in use if what was requested a lap before is pending. -/
theorem has_nextId_iff (hn : Numbered s) :
    Keyed.has s.pending s.nextId = true ↔
      ∃ old, s.Awaits old ∧ old + idCount = s.requests.length := by
  rw [hn.nextId, Keyed.has, Option.isSome_iff_exists]
  constructor
  · rintro ⟨entry, hp⟩
    obtain ⟨ha, hid⟩ := hn.awaits_of_get? hp
    obtain ⟨hlt, hle⟩ := hn.recent ha
    obtain ⟨laps, hlaps⟩ := (idOfRequest_eq_iff (Nat.le_of_lt hlt)).mp hid.symm
    refine ⟨entry.request, ha, ?_⟩
    simp only [idCount] at hlaps hle ⊢
    omega
  · rintro ⟨old, ha, hlap⟩
    obtain ⟨entry, hp, -⟩ := (hn.awaits_iff old).mp ha
    have hid : idOfRequest s.requests.length = idOfRequest old :=
      (idOfRequest_eq_iff (by omega)).mpr ⟨1, by omega⟩
    exact ⟨entry, hid ▸ hp⟩

/-- A request is awaited from then on, and what was requested a lap before is not. -/
theorem awaits_schedule_iff (hn : Numbered s) (kind : CallbackKind) (delay : Nat) (timedOut : Bool)
    (deadline : Option Nat) (degraded : Bool) (body : List Action) (other : Nat) :
    (s.schedule kind delay timedOut deadline degraded body).2.Awaits other ↔
      other = s.requests.length ∨ s.Awaits other ∧ other + idCount ≠ s.requests.length := by
  rw [(hn.schedule kind delay timedOut deadline degraded body).awaits_iff, hn.awaits_iff,
    Scheduler.schedule, Keyed.get?_set]
  by_cases hid : s.nextId = idOfRequest other
  · have hlap : s.Awaits other → other + idCount = s.requests.length := by
      intro ha
      obtain ⟨hlt, hle⟩ := hn.recent ha
      rw [hn.nextId] at hid
      obtain ⟨laps, hlaps⟩ := (idOfRequest_eq_iff (Nat.le_of_lt hlt)).mp hid
      simp only [idCount] at hlaps hle ⊢
      omega
    rw [hn.awaits_iff] at hlap
    simp only [hid, if_true, Option.some.injEq, exists_eq_left']
    constructor
    · exact fun h => .inl h.symm
    · rintro (h | ⟨h, hne⟩)
      · exact h.symm
      · exact absurd (hlap h) hne
  · have hne : other ≠ s.requests.length := by
      rintro rfl
      exact hid hn.nextId
    have hlap : other + idCount ≠ s.requests.length := by
      intro hlap
      have hsame : idOfRequest s.requests.length = idOfRequest other :=
        (idOfRequest_eq_iff (by omega)).mpr ⟨1, by omega⟩
      exact hid (hn.nextId.trans hsame)
    simp only [hid, if_false, hne, hlap, ne_eq, not_false_eq_true, false_or, and_true]

/-- What is awaited under the id of a request was requested with it or laps after it; not before it,
since the request took the place of any older one. -/
theorem idOfRequest_eq_iff_of_awaits (hn : Numbered s) {request other : Nat}
    (hr : request < s.requests.length) (ha : s.Awaits other) :
    idOfRequest other = idOfRequest request ↔ ∃ laps, other = request + laps * idCount := by
  constructor
  · intro hid
    obtain ⟨-, hle⟩ := hn.recent ha
    have hage : request ≤ other := by
      simp only [idOfRequest, idCount] at hid hle
      omega
    exact (idOfRequest_eq_iff hage).mp hid
  · rintro ⟨laps, rfl⟩
    exact (idOfRequest_eq_iff (Nat.le_add_right _ _)).mpr ⟨laps, rfl⟩

/-- Under the id of a request, its own callback is pending or one that was requested laps after
it. -/
theorem has_idOfRequest_iff (hn : Numbered s) {request : Nat} (hr : request < s.requests.length) :
    Keyed.has s.pending (idOfRequest request) = true ↔
      ∃ laps, s.Awaits (request + laps * idCount) := by
  rw [Keyed.has, Option.isSome_iff_exists]
  constructor
  · rintro ⟨entry, hp⟩
    obtain ⟨ha, hid⟩ := hn.awaits_of_get? hp
    obtain ⟨laps, hlaps⟩ := (hn.idOfRequest_eq_iff_of_awaits hr ha).mp hid
    exact ⟨laps, hlaps ▸ ha⟩
  · rintro ⟨laps, ha⟩
    obtain ⟨entry, hp, -⟩ := (hn.awaits_iff _).mp ha
    rw [(hn.idOfRequest_eq_iff_of_awaits hr ha).mpr ⟨laps, rfl⟩] at hp
    exact ⟨entry, hp⟩

/-- What is awaited under another id than that of the handle stays so, and nothing else does. -/
theorem awaits_cancel_iff_id (hn : Numbered s) (handle : CallbackHandle) (other : Nat) :
    (s.cancel handle).2.Awaits other ↔ s.Awaits other ∧ idOfRequest other ≠ handle.id := by
  rw [Scheduler.cancel]
  cases hp : Keyed.get? s.pending handle.id with
  | none =>
    have hnone : s.Awaits other → idOfRequest other ≠ handle.id := by
      intro ha he
      obtain ⟨entry, hentry, -⟩ := (hn.awaits_iff other).mp ha
      rw [he, hp] at hentry
      cases hentry
    exact ⟨fun ha => ⟨ha, hnone ha⟩, fun h => h.1⟩
  | some entry =>
    constructor
    · rintro ⟨id, kept, hk, rfl⟩
      have hold := Keyed.get?_of_erase hk
      obtain ⟨rfl, -⟩ := hn.entries id kept hold
      refine ⟨⟨_, kept, hold, rfl⟩, fun he => ?_⟩
      rw [Keyed.get?_erase, if_pos he.symm] at hk
      cases hk
    · rintro ⟨ha, hne⟩
      obtain ⟨kept, hk, he⟩ := (hn.awaits_iff other).mp ha
      refine ⟨idOfRequest other, kept, ?_, he⟩
      rw [Keyed.get?_erase, if_neg hne.symm]
      exact hk

/-- A cancellation takes away what is pending under the id of its request, and nothing else. -/
theorem awaits_cancel_iff (hn : Numbered s) {request : Nat} {handle : CallbackHandle}
    (hr : s.requests[request]? = some handle) (other : Nat) :
    (s.cancel handle).2.Awaits other ↔
      s.Awaits other ∧ ¬ ∃ laps, other = request + laps * idCount := by
  have hlt : request < s.requests.length := (List.getElem?_eq_some_iff.mp hr).1
  rw [hn.awaits_cancel_iff_id, hn.handles request handle hr]
  exact and_congr_right fun ha => not_congr (hn.idOfRequest_eq_iff_of_awaits hlt ha)

end Numbered

/-- Every scheduler that a course passes is numbered. -/
theorem Reached.numbered {c : Course} (hc : Reached c) {s : Scheduler} (hs : c.Passes s) :
    Numbered s := by
  induction hc generalizing s with
  | start timing =>
    rcases hs with rfl | ⟨m, hm, -⟩
    · exact ⟨rfl, nofun, nofun⟩
    · cases hm
  | note _ h _ ih =>
    rcases hs with rfl | ⟨m, hm, rfl⟩
    · exact (ih (.inl rfl)).step h
    · rcases List.mem_append.mp hm with hm | hm
      · exact ih (.inr ⟨m, hm, rfl⟩)
      · rw [List.mem_singleton.mp hm]
        exact ih (.inl rfl)
  | pass _ nanos ih =>
    rcases hs with rfl | hs
    · exact (ih (.inl rfl)).of_sub rfl rfl fun _ _ h => h
    · exact ih (.inr hs)

/-- What answers a request is a request. -/
theorem schedule_of_requested {s next : Scheduler} {action : Action} {request : Nat}
    {handle : CallbackHandle} (h : s.perform action = (.requested request handle, next)) :
    request = s.requests.length ∧ ∃ kind delay timedOut deadline degraded body,
      s.schedule kind delay timedOut deadline degraded body = (handle, next) := by
  cases action with
  | idle timeout body =>
    obtain ⟨delay, timedOut, deadline, degraded, he⟩ := s.requestIdle_eq timeout body
    simp only [perform, Prod.mk.injEq, Answer.requested.injEq] at h
    obtain ⟨⟨rfl, rfl⟩, rfl⟩ := h
    exact ⟨rfl, _, _, _, _, _, _, he.symm⟩
  | frame body =>
    obtain ⟨delay, timedOut, deadline, degraded, he⟩ := s.requestFrame_eq body
    simp only [perform, Prod.mk.injEq, Answer.requested.injEq] at h
    obtain ⟨⟨rfl, rfl⟩, rfl⟩ := h
    exact ⟨rfl, _, _, _, _, _, _, he.symm⟩
  | cancel request =>
    simp only [perform] at h
    split at h
    · cases h
    · cases h
  | pending => cases h

/-- The end of every course is reached. -/
theorem Course.reached (timing : Timing) (moves : List Move) :
    Reached ((Course.start timing).moveAll moves) := by
  have hstart : (Course.start timing).Drained := fun past s rest hl => by simp [Course.start] at hl
  exact ((Reached.start timing).moveAll hstart moves).1

/-- When ids are mistaken, at any time of any course. A request gets the id of a pending callback
if that callback was requested a whole lap before, and only then; it takes its place. A handle
cancels what is pending under its id, its own callback or that of a request laps after it, and
leaves all others alone. -/
theorem ids_mistaken_iff (timing : Timing) (moves : List Move) (s : Scheduler)
    (hs : ((Course.start timing).moveAll moves).Passes s) :
    (∀ action request handle next, s.perform action = (.requested request handle, next) →
      (Keyed.has s.pending handle.id = true ↔ ∃ old, s.Awaits old ∧ old + idCount = request) ∧
      ∀ other, next.Awaits other ↔ other = request ∨ s.Awaits other ∧ other + idCount ≠ request) ∧
    ∀ request handle, s.requests[request]? = some handle →
      ((s.cancel handle).1 = true ↔ ∃ laps, s.Awaits (request + laps * idCount)) ∧
      ∀ other, (s.cancel handle).2.Awaits other ↔
        s.Awaits other ∧ ¬ ∃ laps, other = request + laps * idCount := by
  have hn : Numbered s := (Course.reached timing moves).numbered hs
  constructor
  · intro action request handle next h
    obtain ⟨rfl, kind, delay, timedOut, deadline, degraded, body, he⟩ := schedule_of_requested h
    have hid : handle.id = s.nextId := congrArg (fun answer => answer.1.id) he.symm
    have hnext := hn.awaits_schedule_iff kind delay timedOut deadline degraded body
    rw [he] at hnext
    exact ⟨by rw [hid, hn.has_nextId_iff], hnext⟩
  · intro request handle hr
    have hlt : request < s.requests.length := (List.getElem?_eq_some_iff.mp hr).1
    refine ⟨?_, hn.awaits_cancel_iff hr⟩
    rw [s.cancel_iff, hn.handles request handle hr, hn.has_idOfRequest_iff hlt]

/-- A frame callback is requested and cancelled, then an idle callback is requested. -/
def briefTour : List Move :=
  [.event (.action (.frame [])), .event (.action (.cancel 0)), .event (.action (.idle none []))]

/-- In a brief course no id is in use again, and the handle of what was cancelled finds nothing. -/
theorem ids_mistaken_iff_brief :
    ∃ s, ((Course.start ⟨16, 5, 50, ⟨true, true⟩⟩).moveAll briefTour).Passes s ∧
      s.perform (.frame []) = (.requested 2 ⟨3, .frame, false⟩, (s.requestFrame []).2) ∧
      s.requests[0]? = some ⟨1, .frame, false⟩ ∧
      (Keyed.has s.pending 3 = true ↔ ∃ old, s.Awaits old ∧ old + idCount = 2) ∧
      ((s.cancel ⟨1, .frame, false⟩).1 = true ↔ ∃ laps, s.Awaits (0 + laps * idCount)) := by
  have hlast := ids_mistaken_iff ⟨16, 5, 50, ⟨true, true⟩⟩ briefTour _ (.inl rfl)
  exact ⟨_, .inl rfl, rfl, rfl, (hlast.1 (.frame []) 2 ⟨3, .frame, false⟩ _ rfl).1,
    (hlast.2 0 ⟨1, .frame, false⟩ rfl).1⟩

/-! ## A whole lap -/

/-- A frame callback is requested, under the given number, and cancelled. -/
def visit (request : Nat) : List Move :=
  [.event (.action (.frame [])), .event (.action (.cancel request))]

/-- An idle callback is requested, and then frame callbacks come and go. -/
def lap (visits : Nat) : List Move :=
  .event (.action (.idle none [])) :: (List.range' 1 visits).flatMap visit

/-- Whether the first callback to be requested is the only one that is pending. -/
def Lone (s : Scheduler) : Prop := ∀ other, s.Awaits other ↔ other = 0

/-- A frame request keeps the numbering. -/
theorem Numbered.requestFrame {s : Scheduler} (hn : Numbered s) (body : List Action) :
    Numbered (s.requestFrame body).2 := by
  obtain ⟨delay, timedOut, deadline, degraded, he⟩ := s.requestFrame_eq body
  rw [he]
  exact hn.schedule .frame delay timedOut deadline degraded body

/-- A frame request is one request more. -/
theorem length_requestFrame (s : Scheduler) (body : List Action) :
    (s.requestFrame body).2.requests.length = s.requests.length + 1 := by
  obtain ⟨delay, timedOut, deadline, degraded, he⟩ := s.requestFrame_eq body
  simp [he, schedule]

/-- After a frame request its callback is pending, and all that were pending but for the one with
its id. -/
theorem Numbered.awaits_requestFrame_iff {s : Scheduler} (hn : Numbered s) (body : List Action)
    (other : Nat) : (s.requestFrame body).2.Awaits other ↔
      other = s.requests.length ∨ s.Awaits other ∧ other + idCount ≠ s.requests.length := by
  obtain ⟨delay, timedOut, deadline, degraded, he⟩ := s.requestFrame_eq body
  rw [he]
  exact hn.awaits_schedule_iff .frame delay timedOut deadline degraded body other

/-- A frame callback that comes and goes leaves the others alone, if its id is not in use. -/
theorem Numbered.awaits_visit_iff {s : Scheduler} (hn : Numbered s)
    (hnew : ∀ old, s.Awaits old → old + idCount ≠ s.requests.length) (other : Nat) :
    ((s.requestFrame []).2.perform (.cancel s.requests.length)).2.Awaits other ↔
      s.Awaits other := by
  have hlength := s.length_requestFrame []
  obtain ⟨handle, hr⟩ : ∃ handle, (s.requestFrame []).2.requests[s.requests.length]? = some handle :=
    ⟨_, List.getElem?_eq_getElem (by omega)⟩
  simp only [perform, hr]
  rw [(hn.requestFrame []).awaits_cancel_iff hr, hn.awaits_requestFrame_iff]
  constructor
  · rintro ⟨rfl | ⟨ha, -⟩, hother⟩
    · exact absurd ⟨0, by omega⟩ hother
    · exact ha
  · intro ha
    obtain ⟨hlt, -⟩ := hn.recent ha
    refine ⟨.inr ⟨ha, hnew other ha⟩, ?_⟩
    rintro ⟨laps, hlaps⟩
    omega

/-- A visit makes one request. -/
theorem length_visit (s : Scheduler) (request : Nat) :
    ((s.requestFrame []).2.perform (.cancel request)).2.requests.length =
      s.requests.length + 1 := by
  rw [← s.length_requestFrame [], perform]
  split
  · rfl
  · simp only [Scheduler.cancel]
    split <;> rfl

/-- Before ids start over, all that came has gone but the first callback. -/
theorem lap_lone (timing : Timing) {visits : Nat} (h : visits < idCount) :
    Lone ((Course.start timing).moveAll (lap visits)).scheduler ∧
      ((Course.start timing).moveAll (lap visits)).scheduler.requests.length = visits + 1 := by
  induction visits with
  | zero =>
    obtain ⟨delay, timedOut, deadline, degraded, he⟩ :=
      (Scheduler.start timing).requestIdle_eq none []
    have hn : Numbered (Scheduler.start timing) := (Reached.start timing).numbered (.inl rfl)
    have hfirst : ((Course.start timing).moveAll (lap 0)).scheduler =
        ((Scheduler.start timing).requestIdle none []).2 :=
      (Course.start timing).act_scheduler (.idle none [])
    rw [hfirst, he]
    refine ⟨fun other => ?_, rfl⟩
    rw [hn.awaits_schedule_iff]
    simp [Scheduler.start, Awaits]
  | succ visits ih =>
    obtain ⟨hl, hlength⟩ := ih (by omega)
    have hn : Numbered ((Course.start timing).moveAll (lap visits)).scheduler :=
      (Course.reached timing _).numbered (.inl rfl)
    have hlap : lap (visits + 1) = lap visits ++ visit (visits + 1) := by
      simp [lap, List.range'_concat, Nat.add_comm]
    have hmoved : ((Course.start timing).moveAll (lap (visits + 1))).scheduler =
        ((((Course.start timing).moveAll (lap visits)).scheduler.requestFrame []).2.perform
          (.cancel (visits + 1))).2 := by
      simp only [hlap, visit, Course.moveAll, List.foldl_append, List.foldl_cons, List.foldl_nil,
        Course.move, Course.occur, Course.act_scheduler]
      rfl
    have hnew : ∀ old, ((Course.start timing).moveAll (lap visits)).scheduler.Awaits old →
        old + idCount ≠ ((Course.start timing).moveAll (lap visits)).scheduler.requests.length := by
      intro old ha
      obtain rfl := (hl old).mp ha
      omega
    have hvisit := hn.awaits_visit_iff hnew
    rw [hlength] at hvisit
    rw [hmoved]
    refine ⟨fun other => (hvisit other).trans (hl other), ?_⟩
    rw [length_visit, hlength]

/-- What goes wrong when ids have started over and the first callback is still pending. -/
structure Mistaken (s next last : Scheduler) : Prop where
  requested : next = (s.requestFrame []).2
  again : last = (next.requestFrame []).2
  /-- The next request gets the id of a callback that is pending. -/
  used : s.Awaits 0 ∧ Keyed.has s.pending (s.requestFrame []).1.id = true
  /-- It takes the place of that callback. -/
  displaced : ¬ next.Awaits 0
  /-- The handle of the second request, whose callback is not pending any more, cancels the callback
  of another. -/
  stale : ¬ last.Awaits 1 ∧ last.Awaits (idCount + 1) ∧
    ∃ handle, last.requests[1]? = some handle ∧ (last.cancel handle).1 = true ∧
      ¬ (last.cancel handle).2.Awaits (idCount + 1)

/-- When ids start over and the first callback is still pending, ids are mistaken. -/
theorem mistaken_of_lone {s : Scheduler} (hn : Numbered s) (hl : Lone s)
    (hcount : s.requests.length = idCount) : ∃ next last, Mistaken s next last := by
  have hmany : 1 < idCount := by simp [idCount]
  obtain ⟨next, hnextEq⟩ : ∃ next, next = (s.requestFrame []).2 := ⟨_, rfl⟩
  obtain ⟨last, hlastEq⟩ : ∃ last, last = (next.requestFrame []).2 := ⟨_, rfl⟩
  have hnext : Numbered next := hnextEq ▸ hn.requestFrame []
  have hlast : Numbered last := hlastEq ▸ hnext.requestFrame []
  have hnextLength : next.requests.length = idCount + 1 := by
    rw [hnextEq, s.length_requestFrame, hcount]
  have hlastLength : last.requests.length = idCount + 2 := by
    rw [hlastEq, next.length_requestFrame, hnextLength]
  have hnextAwaits : ∀ other, next.Awaits other ↔ other = idCount := by
    intro other
    rw [hnextEq, hn.awaits_requestFrame_iff, hl, hcount]
    omega
  have hlastAwaits : ∀ other, last.Awaits other ↔ other = idCount + 1 ∨ other = idCount := by
    intro other
    rw [hlastEq, hnext.awaits_requestFrame_iff, hnextAwaits, hnextLength]
    omega
  have hid : (s.requestFrame []).1.id = s.nextId := by
    obtain ⟨_, _, _, _, he⟩ := s.requestFrame_eq []
    rw [he]
    rfl
  have hused : Keyed.has s.pending s.nextId = true :=
    hn.has_nextId_iff.mpr ⟨0, (hl 0).mpr rfl, by omega⟩
  obtain ⟨handle, hr⟩ : ∃ handle, last.requests[1]? = some handle :=
    ⟨_, List.getElem?_eq_getElem (by omega)⟩
  refine ⟨next, last, hnextEq, hlastEq, ⟨(hl 0).mpr rfl, hid ▸ hused⟩, ?_, ?_, ?_, handle, hr, ?_, ?_⟩
  · rw [hnextAwaits]
    omega
  · rw [hlastAwaits]
    omega
  · rw [hlastAwaits]
    omega
  · rw [last.cancel_iff, hlast.handles 1 handle hr, hlast.has_idOfRequest_iff (by omega)]
    refine ⟨1, ?_⟩
    rw [hlastAwaits]
    omega
  · rw [hlast.awaits_cancel_iff hr]
    rintro ⟨-, hother⟩
    exact hother ⟨1, by omega⟩

/-- An idle callback is pending while 2^32 - 2 frame callbacks come and go. The next request gets
its id and takes its place; after one more, the handle of the first frame callback, which was
cancelled long ago, cancels that request's callback. -/
theorem pending_callback_is_displaced :
    ∃ next last, Mistaken ((Course.start ⟨16, 5, 50, ⟨true, true⟩⟩).moveAll
      (lap 4294967294)).scheduler next last := by
  have hlow : 4294967294 < idCount := by simp [idCount]
  obtain ⟨hl, hlength⟩ := lap_lone ⟨16, 5, 50, ⟨true, true⟩⟩ hlow
  have hn := (Course.reached ⟨16, 5, 50, ⟨true, true⟩⟩ (lap 4294967294)).numbered (.inl rfl)
  exact mistaken_of_lone hn hl hlength

end PageHost.Scheduler
