import PageHost.Proofs.History.Zipper
import PageHost.Proofs.History.Confinement
import PageHost.Proofs.Url.Growth
import PageHost.Session
/-!
# The base of a session

The history and the bridge of a session start at the base URL of one configuration, but the history
trims blanks around it by a wider notion of blank than the one by which a reference loses its ends.
They start at the same URL exactly when no blank above the space stands at the end of the base URL.
-/

namespace PageHost

open Text

namespace Url

/-- A reference without the blanks around it names the same URL, if none of them is above the
space. -/
theorem readReference_trimBlanks (base : Option Url) {reference : String}
    (hb : BeginsPlain reference) (he : EndsPlain reference) :
    readReference base (trimBlanks reference) = readReference base reference := by
  rw [readReference, significant_trimBlanks hb he, readReference]

end Url

/-- A push leads to the URL that its reference names. -/
theorem History.push_leads_iff {h : History} {state : Json} {title : String}
    {reference : Option String} {url : Url} :
    (∃ next, h.push state title reference = .ok next ∧ next.current.url = url) ↔
      h.resolve reference = .ok url := by
  have hcurrent : ∀ entry, (h.pushEntry entry).current = entry := fun entry =>
    congrArg Zipper.here (h.zipper_pushEntry entry)
  rw [push_eq]
  cases h.resolve reference with
  | error e =>
    constructor
    · rintro ⟨next, hnext, -⟩
      cases hnext
    · intro h
      cases h
  | ok there =>
    constructor
    · rintro ⟨next, hnext, rfl⟩
      cases hnext
      rw [hcurrent]
    · rintro ⟨⟩
      exact ⟨_, rfl, by rw [hcurrent]⟩

/-- A request goes to the URL that its reference names without the blanks around it. -/
theorem Fetch.Bridge.resolve_ok_iff {b : Fetch.Bridge} {reference : String} {url : Url} :
    b.resolve reference = .ok url ↔ b.base.join (trimBlanks reference) = .ok url := by
  unfold resolve
  dsimp only
  cases b.base.join (trimBlanks reference) <;> simp

variable {config : Config} {document : Document} {s : Session}

/-- The base URL of a configuration that was read is a URL. -/
theorem Config.exists_parse_of_ofText {text : String} (h : Config.ofText text = .ok config) :
    ∃ base, Url.parse config.baseUrl = .ok base := by
  unfold Config.ofText at h
  split at h
  · cases h
  · split at h
    · cases h
    · next base hbase =>
      cases h
      exact ⟨base, hbase⟩

namespace Session

/-- A session has the history and the bridge of its configuration. -/
theorem start_parts (hstart : start document config true = .ok s) :
    (∃ url, Url.parse (trimBlanks config.baseUrl) = .ok url ∧ s.history = .ofUrl url) ∧
      Fetch.Bridge.ofConfig config = .ok s.bridge := by
  unfold start at hstart
  rw [if_neg (by decide)] at hstart
  split at hstart
  · cases hstart
  · next history hhistory =>
    split at hstart
    · cases hstart
    · next bridge hbridge =>
      cases hstart
      exact ⟨History.start_eq_ok_iff.mp hhistory, hbridge⟩

/-- A session starts if both can be built. -/
theorem exists_start (document : Document) {url : Url} {bridge : Fetch.Bridge}
    (hurl : Url.parse (trimBlanks config.baseUrl) = .ok url)
    (hbridge : Fetch.Bridge.ofConfig config = .ok bridge) :
    ∃ s, start document config true = .ok s ∧ s.history = .ofUrl url ∧ s.bridge = bridge := by
  unfold start
  rw [if_neg (by decide), History.start_eq_ok_iff.mpr ⟨url, hurl, rfl⟩, hbridge]
  exact ⟨_, rfl, rfl, rfl⟩

/-- A bridge stands at the base URL, and needs a user agent that can be sent. -/
theorem ofConfig_ok_iff {bridge : Fetch.Bridge} : Fetch.Bridge.ofConfig config = .ok bridge ↔
    Fetch.isHeaderValue config.userAgent = true ∧
      Url.parse config.baseUrl = .ok bridge.base := by
  unfold Fetch.Bridge.ofConfig Config.base
  cases hagent : Fetch.isHeaderValue config.userAgent with
  | false => simp
  | true =>
    cases hbase : Url.parse config.baseUrl with
    | error e => simp
    | ok base =>
      simp only [Bool.not_true, Bool.false_eq_true, if_false, Except.ok.injEq, true_and]
      constructor
      · rintro rfl
        rfl
      · rintro rfl
        rfl

/-- The history of a session starts at the base of its bridge exactly when no blank above the space
stands at the end of the base URL. Then a reference without such blanks around it leads the history
where a request for it goes, unless that has another origin. -/
theorem history_at_base_iff {text : String} (hc : Config.ofText text = .ok config)
    (document : Document) :
    ∃ base, Url.parse config.baseUrl = .ok base ∧
      (∀ s, start document config true = .ok s → s.bridge.base = base) ∧
      ((∃ s, start document config true = .ok s ∧ s.history.current.url = base) ↔
        Fetch.isHeaderValue config.userAgent = true ∧ EndsPlain config.baseUrl) ∧
      ∀ s, start document config true = .ok s → s.history.current.url = base →
        ∀ reference, BeginsPlain reference → EndsPlain reference → ∀ state title url,
          (∃ next, s.history.push state title (some reference) = .ok next ∧
            next.current.url = url) ↔
          s.bridge.resolve reference = .ok url ∧ url.origin.same base.origin = true := by
  obtain ⟨base, hbase⟩ := Config.exists_parse_of_ofText hc
  have hbridge : ∀ s, start document config true = .ok s →
      Fetch.isHeaderValue config.userAgent = true ∧ s.bridge.base = base := by
    intro s hstart
    obtain ⟨hagent, hread⟩ := ofConfig_ok_iff.mp (start_parts hstart).2
    rw [hbase] at hread
    exact ⟨hagent, (Except.ok.inj hread).symm⟩
  refine ⟨base, hbase, fun s hstart => (hbridge s hstart).2, ⟨?_, ?_⟩, ?_⟩
  · rintro ⟨s, hstart, hcurrent⟩
    refine ⟨(hbridge s hstart).1, ?_⟩
    obtain ⟨⟨url, hurl, hhistory⟩, -⟩ := start_parts hstart
    have hsame : url = base := by
      rw [hhistory] at hcurrent
      exact hcurrent
    by_contra he
    exact Url.parse_trimBlanks_ne hbase he (hsame ▸ hurl)
  · rintro ⟨hagent, he⟩
    have htrim : Url.parse (trimBlanks config.baseUrl) = .ok base := by
      rw [Url.parse, Url.readReference_trimBlanks none (Url.beginsPlain_of_parse hbase) he]
      exact hbase
    have hread : Fetch.Bridge.ofConfig config = .ok ⟨base⟩ := ofConfig_ok_iff.mpr ⟨hagent, hbase⟩
    obtain ⟨s, hstart, hhistory, -⟩ := exists_start document htrim hread
    exact ⟨s, hstart, by rw [hhistory]; rfl⟩
  · intro s hstart hcurrent reference hb he state title url
    have htrim : base.join (trimBlanks reference) = base.join reference :=
      Url.readReference_trimBlanks (some base) hb he
    rw [History.push_leads_iff, History.resolve_some_ok_iff, hcurrent,
      Fetch.Bridge.resolve_ok_iff, (hbridge s hstart).2, htrim]

/-- The default settings with another base URL. -/
def withBase (baseUrl : String) : Config := { Config.default with baseUrl }

/-- Spaces around a base URL do not keep the history from where requests go. -/
theorem history_at_base_iff_news :
    Config.ofText "base_url: \" https://news.example/page/1 \"" =
      .ok (withBase " https://news.example/page/1 ") ∧
    ∃ s, start .blank (withBase " https://news.example/page/1 ") true = .ok s ∧
      s.history.current.url = History.newsPage "/page/1" ∧
      s.bridge.base = History.newsPage "/page/1" ∧
      ∃ next, s.history.push .null "" (some "2") = .ok next ∧
        next.current.url = History.newsPage "/page/2" := by
  have hc : Config.ofText "base_url: \" https://news.example/page/1 \"" =
      .ok (withBase " https://news.example/page/1 ") := by decide +kernel
  have hparse : Url.parse (withBase " https://news.example/page/1 ").baseUrl =
      .ok (History.newsPage "/page/1") := by decide +kernel
  have hrequest : Fetch.Bridge.resolve ⟨History.newsPage "/page/1"⟩ "2" =
      .ok (History.newsPage "/page/2") := by decide +kernel
  obtain ⟨base, hbase, hbridge, hiff, hleads⟩ := history_at_base_iff hc .blank
  rw [hparse] at hbase
  cases hbase
  obtain ⟨s, hstart, hcurrent⟩ := hiff.mpr ⟨by decide +kernel, by decide +kernel⟩
  refine ⟨hc, s, hstart, hcurrent, hbridge s hstart, ?_⟩
  have hresolve : s.bridge.resolve "2" = .ok (History.newsPage "/page/2") := by
    rw [← hrequest, ← hbridge s hstart]
  exact (hleads s hstart hcurrent "2" (by decide) (by decide) .null "" _).mpr
    ⟨hresolve, by decide +kernel⟩

/-- A URL of the local host. -/
def localPage (path : String) (query : Option String) : Url :=
  ⟨"http", some ⟨"", none, .domain "localhost", none⟩, path, query, none⟩

/-- A no-break space at the end of the base URL is a part of it for requests, but not for the
history: the same reference leads to different places. -/
theorem history_beside_base :
    Config.ofText "base_url: \"http://localhost/\\_\"" = .ok (withBase "http://localhost/\u00A0") ∧
    ∃ s, start .blank (withBase "http://localhost/\u00A0") true = .ok s ∧
      s.history.current.url = localPage "/" none ∧ s.bridge.base = localPage "/%C2%A0" none ∧
      s.history.current.url ≠ s.bridge.base ∧
      (∃ next, s.history.push .null "" (some "?x") = .ok next ∧
        next.current.url = localPage "/" "x") ∧
      s.bridge.resolve "?x" = .ok (localPage "/%C2%A0" "x") := by
  have hparse : Url.parse (trimBlanks (withBase "http://localhost/\u00A0").baseUrl) =
      .ok (localPage "/" none) := by decide +kernel
  have hread : Fetch.Bridge.ofConfig (withBase "http://localhost/\u00A0") =
      .ok ⟨localPage "/%C2%A0" none⟩ := by decide +kernel
  obtain ⟨s, hstart, hhistory, hbridge⟩ := exists_start .blank hparse hread
  refine ⟨by decide +kernel, s, hstart, ?_⟩
  rw [hhistory, hbridge]
  exact ⟨rfl, rfl, by decide +kernel, History.push_leads_iff.mpr (by decide +kernel),
    by decide +kernel⟩

end Session

end PageHost
