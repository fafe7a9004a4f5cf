import PageHost.Proofs.Page.Release
/-!
# What taking back registrations leaves alone

Forgetting an id reads the table of registrations and the names that the page listens
for, and nothing else of the document. It leaves alone every event that the id does not
listen for: its root count and its root listener stay.
-/

namespace PageHost

namespace Delegation

/-! ## The document matters by its root listeners only -/

/-- What taking registrations off a root count does depends on the root listeners of the document
only. -/
theorem releaseRoot_congr (d : Delegation) {a b : Document}
    (h : b.rootListeners = a.rootListeners) (name : String) (units : Nat) :
    (releaseRoot d b name units).2.1 = (releaseRoot d a name units).2.1 ∧
      (releaseRoot d b name units).2.2.rootListeners =
        (releaseRoot d a name units).2.2.rootListeners := by
  unfold releaseRoot
  cases Keyed.get? d.rootCounts name with
  | none => exact ⟨rfl, h⟩
  | some count =>
    dsimp only
    split
    · exact ⟨rfl, congrArg (List.filter _) h⟩
    · exact ⟨rfl, h⟩

theorem releaseEntries_congr (d : Delegation) {a b : Document}
    (h : b.rootListeners = a.rootListeners) (entries : Keyed (NodeId × String) Interest) :
    (releaseEntries d b entries).1 = (releaseEntries d a entries).1 ∧
      (releaseEntries d b entries).2.rootListeners =
        (releaseEntries d a entries).2.rootListeners := by
  induction entries generalizing d a b with
  | nil => exact ⟨rfl, h⟩
  | cons entry rest ih =>
    obtain ⟨htable, hlisteners⟩ := releaseRoot_congr d h entry.1.2 entry.2.count
    have hrest := ih (releaseRoot d b entry.1.2 entry.2.count).2.1 hlisteners
    rw [htable] at hrest
    unfold releaseEntries at hrest ⊢
    rw [List.foldl_cons, List.foldl_cons]
    have hpair : (releaseRoot d b entry.1.2 entry.2.count).2 =
        ((releaseRoot d a entry.1.2 entry.2.count).2.1,
          (releaseRoot d b entry.1.2 entry.2.count).2.2) := by
      rw [← htable]
    rw [hpair]
    exact hrest

/-- What forgetting an id does depends on the root listeners of the document only. -/
theorem forget_congr (d : Delegation) {a b : Document} (h : b.rootListeners = a.rootListeners)
    (id : NodeId) :
    (d.forget b id).2.1 = (d.forget a id).2.1 ∧
      (d.forget b id).2.2.rootListeners = (d.forget a id).2.2.rootListeners := by
  rw [forget_eq, forget_eq]
  exact releaseEntries_congr _ h _

/-! ## Other events -/

/-- Taking registrations off one event changes neither count nor listener of another. -/
theorem releaseRoot_other (d : Delegation) (doc : Document) {name other : String}
    (h : other ≠ name) (units : Nat) :
    (releaseRoot d doc name units).2.1.rootCount other = d.rootCount other ∧
      ((releaseRoot d doc name units).2.2.hasRootListener other = true ↔
        doc.hasRootListener other = true) := by
  unfold releaseRoot rootCount
  cases Keyed.get? d.rootCounts name with
  | none => exact ⟨rfl, Iff.rfl⟩
  | some count =>
    dsimp only
    split
    · refine ⟨?_, ?_⟩
      · rw [Keyed.get?_erase, if_neg h.symm]
      · rw [hasRootListener_uninstall]
        exact and_iff_right h
    · refine ⟨?_, Iff.rfl⟩
      dsimp only
      rw [Keyed.get?_set, if_neg h.symm]

theorem releaseEntries_other (d : Delegation) (doc : Document) {name : String}
    {entries : Keyed (NodeId × String) Interest} (h : ∀ entry ∈ entries, name ≠ entry.1.2) :
    (releaseEntries d doc entries).1.rootCount name = d.rootCount name ∧
      ((releaseEntries d doc entries).2.hasRootListener name = true ↔
        doc.hasRootListener name = true) := by
  induction entries generalizing d doc with
  | nil => exact ⟨rfl, Iff.rfl⟩
  | cons entry rest ih =>
    obtain ⟨hcount, hlistener⟩ :=
      releaseRoot_other d doc (h entry List.mem_cons_self) entry.2.count
    obtain ⟨hcounts, hlisteners⟩ := ih (releaseRoot d doc entry.1.2 entry.2.count).2.1
      (releaseRoot d doc entry.1.2 entry.2.count).2.2 fun e he => h e (List.mem_cons_of_mem _ he)
    exact ⟨hcounts.trans hcount, hlisteners.trans hlistener⟩

/-- The page goes on listening for an event that the id does not listen for. -/
theorem forget_other {d : Delegation} (doc : Document) {id : NodeId} {name : String}
    (h : d.interest? id name = none) :
    (d.forget doc id).2.1.rootCount name = d.rootCount name ∧
      ((d.forget doc id).2.2.hasRootListener name = true ↔ doc.hasRootListener name = true) := by
  rw [forget_eq]
  apply releaseEntries_other
  rintro ⟨⟨i, n⟩, interest⟩ hm rfl
  obtain ⟨hm, hi⟩ := List.mem_filter.mp hm
  have hkey : (i, name) ∈ d.interests.map Prod.fst := List.mem_map_of_mem hm
  have hid : i = id := by simpa using hi
  rw [Keyed.mem_keys_iff, hid] at hkey
  unfold interest? at h
  rw [h] at hkey
  cases hkey

end Delegation

namespace Page

/-- What forgetting ids does depends on registrations and root listeners only. -/
theorem forgetAll_congr {a b : Page} (hd : b.delegation = a.delegation)
    (hl : b.document.rootListeners = a.document.rootListeners) (ids : List NodeId) :
    (b.forgetAll ids).delegation = (a.forgetAll ids).delegation ∧
      (b.forgetAll ids).document.rootListeners = (a.forgetAll ids).document.rootListeners := by
  induction ids generalizing a b with
  | nil => exact ⟨hd, hl⟩
  | cons id rest ih =>
    obtain ⟨htable, hlisteners⟩ := Delegation.forget_congr a.delegation hl id
    apply ih
    · show (b.delegation.forget b.document id).2.1 = (a.delegation.forget a.document id).2.1
      rw [hd, htable]
    · show (b.delegation.forget b.document id).2.2.rootListeners =
        (a.delegation.forget a.document id).2.2.rootListeners
      rw [hd, hlisteners]

/-- Ids without a registration for an event change neither its count nor its listener. -/
theorem forgetAll_other {page : Page} {ids : List NodeId} {name : String}
    (h : ∀ id ∈ ids, page.delegation.interest? id name = none) :
    (page.forgetAll ids).delegation.rootCount name = page.delegation.rootCount name ∧
      ((page.forgetAll ids).document.hasRootListener name = true ↔
        page.document.hasRootListener name = true) := by
  induction ids generalizing page with
  | nil => exact ⟨rfl, Iff.rfl⟩
  | cons id rest ih =>
    obtain ⟨hcount, hlistener⟩ :=
      Delegation.forget_other page.document (h id List.mem_cons_self)
    have hrest : ∀ other ∈ rest, (page.forget id).delegation.interest? other name = none := by
      intro other ho
      have hview : (page.forget id).delegation.interest? other name =
          if other = id then none else page.delegation.interest? other name :=
        Delegation.interest?_forget _ _ _ _ _
      rw [hview, h other (List.mem_cons_of_mem id ho), ite_self]
    obtain ⟨hcounts, hlisteners⟩ := ih hrest
    exact ⟨hcounts.trans hcount, hlisteners.trans hlistener⟩

end Page

end PageHost
