import PageHost.Proofs.History.Confinement
import PageHost.Proofs.Url.Fragment
/-!
# References from a place to itself

A push or a replacement without a reference keeps the URL. One with a reference that leads to the
very same URL should be no different, but the reference is checked: the origin of the URL is
compared with itself. An opaque origin is not the same as itself, so there the page is told that
its own URL is of a different origin. Whose origin is opaque is settled when the history starts.
-/

namespace PageHost

/-- Apart from blobs, which may hold any URL, the URLs of an origin that is not opaque are those of
the web, without files, that have a host. -/
theorem Url.origin_ne_opaque_iff {url : Url} (hb : url.scheme ≠ "blob") :
    url.origin ≠ .opaqueOrigin ↔ url.kind = .special ∧ url.authority ≠ none := by
  have hplain : url.origin = url.plainOrigin := if_neg hb
  rw [hplain]
  unfold plainOrigin
  split
  · next a hkind ha => simp [hkind, ha]
  · next hne =>
    have hnone : url.kind = .special → url.authority = none := fun hkind =>
      Option.eq_none_iff_forall_ne_some.mpr fun a ha => hne a hkind ha
    simpa using hnone

namespace History

open Url (Tidy)

variable {h : History}

/-- Wherever a history leads, the fragment of the URL is encoded. -/
theorem tidy_of_resolve (ht : h.Everywhere Tidy) (reference : Option String) (url : Url)
    (hr : h.resolve reference = .ok url) : url.Tidy := by
  cases reference with
  | none =>
    cases hr
    exact ht.current
  | some text => exact Url.tidy_of_readReference (resolve_some_ok_iff.mp hr).1

variable {reference : String}

/-- A reference to the current URL is as good as none if the origin is not opaque. -/
theorem resolve_self_of_ne_opaque (hj : h.current.url.join reference = .ok h.current.url)
    (ho : h.current.url.origin ≠ .opaqueOrigin) : h.resolve (some reference) = h.resolve none :=
  resolve_some_ok_iff.mpr ⟨hj, Url.Origin.same_iff.mpr ⟨rfl, ho⟩⟩

/-- It is refused if the origin is opaque. -/
theorem resolve_self_of_opaque (hj : h.current.url.join reference = .ok h.current.url)
    (ho : h.current.url.origin = .opaqueOrigin) :
    h.resolve (some reference) = .error (.crossOrigin .opaqueOrigin .opaqueOrigin) := by
  simp [resolve, hj, ho, Url.Origin.same]

/-- In every history the empty reference, on a URL that has no fragment and no opaque path, and the
fragment of a URL that has one lead from the current URL to itself. A push or a replacement with a
reference that does so, whichever it is, does what one without a reference does, which always
succeeds, if the history started at a URL whose origin is not opaque; otherwise it is refused as one
that leads from an opaque origin to another. Apart from blobs the URLs whose origin is not opaque
are those of the web that have a host. -/
theorem self_reference_kept_unless_opaque {text : String} {first : History}
    (hs : start text = .ok first) (moves : List Move) (hh : (first.moveAll moves).2 = h)
    (state : Json) (title : String) :
    (h.current.url.fragment = none → h.current.url.isOpaque = false →
      h.current.url.join "" = .ok h.current.url) ∧
    (∀ fragment, h.current.url.fragment = some fragment →
      h.current.url.join ("#" ++ fragment) = .ok h.current.url) ∧
    h.push state title none = .ok (h.pushEntry ⟨h.current.url, title, state⟩) ∧
    h.replace state title none = .ok (h.replaceEntry ⟨h.current.url, title, state⟩) ∧
    (first.current.url.scheme ≠ "blob" → (first.current.url.origin ≠ .opaqueOrigin ↔
      first.current.url.kind = .special ∧ first.current.url.authority ≠ none)) ∧
    ∀ reference, h.current.url.join reference = .ok h.current.url →
      (first.current.url.origin ≠ .opaqueOrigin →
        h.push state title (some reference) = h.push state title none ∧
        h.replace state title (some reference) = h.replace state title none) ∧
      (first.current.url.origin = .opaqueOrigin →
        h.push state title (some reference) =
          .error (.crossOrigin .opaqueOrigin .opaqueOrigin) ∧
        h.replace state title (some reference) =
          .error (.crossOrigin .opaqueOrigin .opaqueOrigin)) := by
  obtain ⟨url, hurl, rfl⟩ := start_eq_ok_iff.mp hs
  have htidy : h.Everywhere Tidy := by
    have hstart : (ofUrl url).Everywhere Tidy := .ofUrl (Url.tidy_of_readReference hurl)
    exact hh ▸ hstart.moveAll tidy_of_resolve moves
  have horigin : h.current.url.origin = url.origin := by
    have hstart : (ofUrl url).Settled url := Everywhere.ofUrl (Url.staysAt_self url)
    exact hh ▸ (hstart.moveAll moves).1.current.origin_eq
  refine ⟨Url.join_empty, fun fragment => htidy.current.join_fragment, rfl, rfl,
    Url.origin_ne_opaque_iff, fun reference hj => ⟨fun ho => ?_, fun ho => ?_⟩⟩
  · have hresolve := resolve_self_of_ne_opaque hj (horigin ▸ ho)
    exact ⟨by rw [push_eq, hresolve, push_eq], by rw [replace_eq, hresolve, replace_eq]⟩
  · have hresolve := resolve_self_of_opaque hj (horigin.trans ho)
    exact ⟨by rw [push_eq, hresolve, Except.map], by rw [replace_eq, hresolve, Except.map]⟩

/-- After a tour from a page of news its last page may be pushed again by the empty reference. -/
theorem self_reference_kept_news :
    start " https://news.example/ " = .ok (ofUrl (newsPage "/")) ∧
    ((ofUrl (newsPage "/")).moveAll newsTour).2.push .null "again" (some "") =
      ((ofUrl (newsPage "/")).moveAll newsTour).2.push .null "again" none := by
  have hs : start " https://news.example/ " = .ok (ofUrl (newsPage "/")) :=
    start_of_parse (by decide +kernel)
  obtain ⟨hempty, -, -, -, -, hself⟩ := self_reference_kept_unless_opaque hs newsTour rfl .null
    "again"
  have hj := hempty (by decide +kernel) (by decide +kernel)
  exact ⟨hs, ((hself "" hj).1 (by decide +kernel)).1⟩

/-- A page without a host, at a place of it. -/
def notePage : Url := { dataPage with fragment := some "b" }

/-- The fragment of the current URL leads to the current URL, yet it is refused, while to keep the
URL by naming none is not. -/
theorem own_fragment_refused :
    start "data:text/plain,a#b" = .ok (ofUrl notePage) ∧
    notePage.join "#b" = .ok notePage ∧
    (ofUrl notePage).push .null "" (some "#b") =
      .error (.crossOrigin .opaqueOrigin .opaqueOrigin) ∧
    (ofUrl notePage).push .null "" none =
      .ok ((ofUrl notePage).pushEntry ⟨notePage, "", .null⟩) := by
  have hs : start "data:text/plain,a#b" = .ok (ofUrl notePage) :=
    start_of_parse (by decide +kernel)
  have htidy : notePage.Tidy := by
    rintro _ ⟨⟩ c hm
    obtain rfl : c = 'b' := List.mem_singleton.mp hm
    decide
  have hj : notePage.join "#b" = .ok notePage := htidy.join_fragment rfl
  have ho : notePage.origin = .opaqueOrigin := by decide +kernel
  have hresolve : (ofUrl notePage).resolve (some "#b") =
      .error (.crossOrigin .opaqueOrigin .opaqueOrigin) := resolve_self_of_opaque hj ho
  exact ⟨hs, hj, by rw [push_eq, hresolve, Except.map], rfl⟩

end History

end PageHost
