import PageHost.Proofs.History.Zipper
/-!
# Histories stay where they start

A reference is checked against the current place only, and that place may itself have
come out of earlier moves. Yet all places of a history belong to whom its first URL
belongs to: they have its scheme, host and port, or are that very URL where it belongs
to no one else. So the check against the current place is a check against the start.
-/

namespace PageHost

namespace Url

/-- Two origins are the same when they are equal and not opaque. -/
theorem Origin.same_iff {a b : Origin} : a.same b = true ↔ a = b ∧ b ≠ .opaqueOrigin := by
  cases a with
  | opaqueOrigin =>
    constructor
    · intro h
      cases h
    · rintro ⟨rfl, hn⟩
      exact absurd rfl hn
  | tuple scheme host port =>
    cases b with
    | opaqueOrigin =>
      constructor
      · intro h
        cases h
      · rintro ⟨h, -⟩
        cases h
    | tuple scheme' host' port' =>
      simp only [same, Bool.and_eq_true, beq_iff_eq, tuple.injEq, ne_eq, reduceCtorEq,
        not_false_eq_true, and_true, and_assoc]

/-- A URL that does not leave a home: it has the home's scheme, host and port as its origin, or
is the home itself when the home's origin is opaque. -/
def StaysAt (home url : Url) : Prop :=
  match home.origin with
  | .tuple scheme host port => url.origin = .tuple scheme host port
  | .opaqueOrigin => url = home

/-- Every URL stays at itself. -/
theorem staysAt_self (home : Url) : StaysAt home home := by
  unfold StaysAt
  split
  · assumption
  · rfl

/-- What stays at a home has the home's origin. -/
theorem StaysAt.origin_eq {home url : Url} (h : StaysAt home url) : url.origin = home.origin := by
  unfold StaysAt at h
  split at h
  · next hhome => rw [h, hhome]
  · rw [h]

/-- Nothing else stays at a home of opaque origin. -/
theorem StaysAt.eq_home {home url : Url} (h : StaysAt home url)
    (ho : home.origin = .opaqueOrigin) : url = home := by
  rw [StaysAt, ho] at h
  exact h

/-- A URL of the same origin as one that stays at a home stays there too. -/
theorem StaysAt.of_same {home url there : Url} (h : StaysAt home url)
    (hs : there.origin.same url.origin = true) : StaysAt home there := by
  obtain ⟨hsame, hn⟩ := Origin.same_iff.mp hs
  unfold StaysAt
  split
  · next hhome => rw [hsame, h.origin_eq, hhome]
  · next hhome => exact absurd (h.origin_eq.trans hhome) hn

end Url

namespace History

open Url (StaysAt)

variable {home : Url} {h : History}

/-! ## What all places have -/

/-- All places of a history have a property. -/
def Everywhere (P : Url → Prop) (h : History) : Prop := ∀ entry ∈ h.entries, P entry.url

/-- Steps change no place. -/
theorem entries_back? {before : History} (hb : h.back? = some before) :
    before.entries = h.entries := by
  unfold back? at hb
  split at hb
  · rw [← Option.some.inj hb]
  · cases hb

/-- A step forward keeps the entries. -/
theorem entries_forward? {next : History} (hf : h.forward? = some next) :
    next.entries = h.entries := by
  unfold forward? at hf
  split at hf
  · rw [← Option.some.inj hf]
  · cases hf

namespace Everywhere

variable {P : Url → Prop}

theorem ofUrl {url : Url} (hu : P url) : (ofUrl url).Everywhere P := by
  intro entry hm
  rw [List.mem_singleton.mp hm]
  exact hu

theorem current (hp : h.Everywhere P) : P h.current.url := hp _ (List.get_mem _ _)

/-- A step along the entries stays where they are. -/
theorem stepTo (hp : h.Everywhere P) {step : Option History}
    (he : ∀ next, step = some next → next.entries = h.entries) :
    (h.stepTo step).2.Everywhere P := by
  cases step with
  | none => exact hp
  | some next =>
    intro entry hm
    exact hp entry (he next rfl ▸ hm)

/-- A move leaves a property to all places if it leads only to URLs that have it. -/
theorem move (hp : h.Everywhere P)
    (hr : ∀ reference url, h.resolve reference = .ok url → P url) (m : Move) :
    (h.move m).2.Everywhere P := by
  cases m with
  | push state title reference =>
    rw [History.move, pushInPlace, changeInPlace]
    cases hres : h.resolve reference with
    | error e => exact hp
    | ok url =>
      intro entry hm
      rcases List.mem_append.mp hm with hold | hnew
      · exact hp entry (List.mem_of_mem_take hold)
      · rw [List.mem_singleton.mp hnew]
        exact hr reference url hres
  | replace state title reference =>
    rw [History.move, replaceInPlace, changeInPlace]
    cases hres : h.resolve reference with
    | error e => exact hp
    | ok url =>
      intro entry hm
      rcases List.mem_or_eq_of_mem_set hm with hold | rfl
      · exact hp entry hold
      · exact hr reference url hres
  | back => exact hp.stepTo fun _ hb => entries_back? hb
  | forward => exact hp.stepTo fun _ hf => entries_forward? hf

/-- Moves whose references resolve to places of the kind stay among places of that kind. -/
theorem moveAll (hp : h.Everywhere P)
    (hr : ∀ {h : History}, h.Everywhere P → ∀ reference url, h.resolve reference = .ok url → P url)
    (moves : List Move) : (h.moveAll moves).2.Everywhere P := by
  induction moves generalizing h with
  | nil => exact hp
  | cons m rest ih => exact ih (hp.move (hr hp) m)

end Everywhere

/-- All places of a history stay at a home. -/
def Settled (home : Url) (h : History) : Prop := ∀ entry ∈ h.entries, StaysAt home entry.url

theorem Settled.everywhere (hs : h.Settled home) : h.Everywhere (StaysAt home) := hs

/-- The current entry of a settled history stays at home. -/
theorem Settled.current (hs : h.Settled home) : StaysAt home h.current.url :=
  hs.everywhere.current

/-! ## Single moves -/

/-- A reference leads to a URL that it joins to, of the same origin as the current one. -/
theorem resolve_some_ok_iff {reference : String} {url : Url} :
    h.resolve (some reference) = .ok url ↔
      h.current.url.join reference = .ok url ∧ url.origin.same h.current.url.origin = true := by
  simp only [History.resolve]
  cases h.current.url.join reference with
  | error e =>
    constructor
    · intro hr
      cases hr
    · rintro ⟨hr, -⟩
      cases hr
  | ok there =>
    by_cases hsame : there.origin.same h.current.url.origin = true
    · simp only [hsame, if_true, Except.ok.injEq]
      constructor
      · rintro rfl
        exact ⟨rfl, hsame⟩
      · exact And.left
    · simp only [hsame, Bool.false_eq_true, if_false, Except.ok.injEq, reduceCtorEq, false_iff]
      rintro ⟨rfl, h⟩
      exact hsame h

/-- A URL that is not refused stays at the home of the history. -/
theorem Settled.resolve (hs : h.Settled home) {reference : Option String} {url : Url}
    (hr : h.resolve reference = .ok url) : StaysAt home url := by
  cases reference with
  | none =>
    cases hr
    exact hs.current
  | some text => exact hs.current.of_same (resolve_some_ok_iff.mp hr).2

/-- A location that a move reports, if it reports one. -/
def Reply.location? : Reply → Option Location
  | .arrived location => location
  | _ => none

/-- The location that a move reports is where it leads. -/
theorem location_of_move {m : Move} {location : Location}
    (hl : (h.move m).1.location? = some location) :
    location = .ofUrl (h.move m).2.current.url := by
  have hchange : ∀ result : EStateM.Result NavigationError History Unit,
      (changeTo result).1.location? = none := by
    intro result
    cases result <;> rfl
  have hstep : ∀ step : Option History, (h.stepTo step).1.location? = some location →
      location = .ofUrl (h.stepTo step).2.current.url := by
    intro step hl
    cases step with
    | none => cases hl
    | some next => exact (Option.some.inj hl).symm
  cases m with
  | push | replace =>
    rw [move, hchange] at hl
    cases hl
  | back | forward => exact hstep _ hl

/-- What a history is after a move, and what the move reports, stay at a home. -/
structure Stays (home : Url) (result : Reply × History) : Prop where
  settled : result.2.Settled home
  reported : ∀ location, result.1.location? = some location →
    ∃ url, StaysAt home url ∧ location = .ofUrl url

/-- A settled history stays at home with every move. -/
theorem Settled.move (hs : h.Settled home) (m : Move) : Stays home (h.move m) := by
  have hnext : (h.move m).2.Settled home := hs.everywhere.move (fun _ _ => hs.resolve) m
  exact ⟨hnext, fun _ hl => ⟨_, hnext.current, location_of_move hl⟩⟩

/-! ## Runs -/

/-- A settled history stays at home over any moves, and so does all that it reports. -/
theorem Settled.moveAll (hs : h.Settled home) (moves : List Move) :
    (h.moveAll moves).2.Settled home ∧
      ∀ reply ∈ (h.moveAll moves).1, ∀ location, reply.location? = some location →
        ∃ url, StaysAt home url ∧ location = .ofUrl url := by
  induction moves generalizing h with
  | nil => exact ⟨hs, fun _ hm => by cases hm⟩
  | cons m rest ih =>
    have hmove := hs.move m
    obtain ⟨hlast, hrest⟩ := ih hmove.settled
    refine ⟨hlast, fun reply hm => ?_⟩
    rcases List.mem_cons.mp hm with rfl | hm
    · exact hmove.reported
    · exact hrest reply hm

/-- A push succeeds when its reference leads to a URL. -/
theorem push_ok_iff {state : Json} {title : String} {reference : Option String} :
    (∃ next, h.push state title reference = .ok next) ↔ ∃ url, h.resolve reference = .ok url := by
  rw [push_eq]
  cases h.resolve reference <;> simp [Except.map]

/-- A reference is accepted exactly when it leads to a URL of the home's origin, and never when
that origin is opaque. -/
theorem Settled.push_ok_iff (hs : h.Settled home) (state : Json) (title reference : String) :
    (∃ next, h.push state title (some reference) = .ok next) ↔
      home.origin ≠ .opaqueOrigin ∧
        ∃ url, h.current.url.join reference = .ok url ∧ url.origin = home.origin := by
  rw [History.push_ok_iff]
  constructor
  · rintro ⟨url, hr⟩
    obtain ⟨hjoin, hsame⟩ := resolve_some_ok_iff.mp hr
    rw [hs.current.origin_eq] at hsame
    obtain ⟨horigin, hn⟩ := Url.Origin.same_iff.mp hsame
    exact ⟨hn, url, hjoin, horigin⟩
  · rintro ⟨hn, url, hjoin, horigin⟩
    have hsame : url.origin.same h.current.url.origin = true := by
      rw [hs.current.origin_eq]
      exact Url.Origin.same_iff.mpr ⟨horigin, hn⟩
    exact ⟨url, resolve_some_ok_iff.mpr ⟨hjoin, hsame⟩⟩

/-- Wherever a run of moves from the start of a history ends, all places and all locations that
were reported stay at the first URL, and a reference is accepted exactly when it leads to a URL
of the first URL's origin. -/
theorem history_stays_home {text : String} (hs : start text = .ok h) (moves : List Move) :
    Url.parse (Text.trimBlanks text) = .ok h.current.url ∧
    ∃ after, (h.moveAll moves).2 = after ∧
      (∀ entry ∈ after.entries, StaysAt h.current.url entry.url) ∧
      (∃ url, StaysAt h.current.url url ∧ after.location = .ofUrl url) ∧
      (∀ location, .arrived (some location) ∈ (h.moveAll moves).1 →
        ∃ url, StaysAt h.current.url url ∧ location = .ofUrl url) ∧
      ∀ state title reference, (∃ next, after.push state title (some reference) = .ok next) ↔
        h.current.url.origin ≠ .opaqueOrigin ∧
          ∃ url, after.current.url.join reference = .ok url ∧
            url.origin = h.current.url.origin := by
  obtain ⟨first, hfirst, rfl⟩ := start_eq_ok_iff.mp hs
  have hsettled : (ofUrl first).Settled first := Everywhere.ofUrl (Url.staysAt_self first)
  obtain ⟨hlast, hreplies⟩ := hsettled.moveAll moves
  exact ⟨hfirst, _, rfl, hlast, ⟨_, hlast.current, rfl⟩,
    fun location hm => hreplies _ hm location rfl, hlast.push_ok_iff⟩

/-- A page without a host. -/
def dataPage : Url := ⟨"data", none, "text/plain,a", none, none⟩

/-- A run from a page of news leads to other places of its origin, a run from a page whose origin
is opaque to that page only. -/
theorem history_stays_home_news :
    start " https://news.example/ " = .ok (ofUrl (newsPage "/")) ∧
    ((ofUrl (newsPage "/")).moveAll newsTour).2.entries.map (·.url) =
      [newsPage "/", newsPage "/other"] ∧
    (∀ entry ∈ ((ofUrl (newsPage "/")).moveAll newsTour).2.entries,
      StaysAt (newsPage "/") entry.url) ∧
    start "data:text/plain,a" = .ok (ofUrl dataPage) ∧
    ∀ entry ∈ ((ofUrl dataPage).moveAll
        [.push .null "" (some "#b"), .push .null "" none, .back]).2.entries,
      entry.url = dataPage := by
  have hnews : start " https://news.example/ " = .ok (ofUrl (newsPage "/")) :=
    start_of_parse (by decide +kernel)
  have hdata : start "data:text/plain,a" = .ok (ofUrl dataPage) :=
    start_of_parse (by decide +kernel)
  obtain ⟨-, _, rfl, hstays, -⟩ := history_stays_home hnews newsTour
  obtain ⟨-, _, rfl, hsame, -⟩ := history_stays_home hdata
    [.push .null "" (some "#b"), .push .null "" none, .back]
  have horigin : dataPage.origin = .opaqueOrigin := by decide +kernel
  exact ⟨hnews, by decide +kernel, hstays, hdata,
    fun entry hm => (hsame entry hm).eq_home horigin⟩

end History

end PageHost
