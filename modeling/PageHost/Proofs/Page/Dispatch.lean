import PageHost.Proofs.Delegation.Ledger
import PageHost.Proofs.Page.Recency
/-!
# Events that are reported

An event is reported for the nearest node at or above its target that has an id, and what the
report says is read off the table of bindings and the delegation. `Nearest` and `ListensAt`
say the same with the ids of nodes and their registrations alone. On every page that a run
comes to, the root listener that lets the event through stands for some id that listens, so no
event that a node listens for is lost, and every report is about a node with an id.
-/

namespace PageHost

namespace Document

variable {doc : Document}

/-- What comes after a node on the way up is the way up from that node. -/
theorem Treelike.ancestors_of_path (ht : doc.Treelike) {h n : Handle} {before after : List Handle}
    (hp : h :: doc.ancestors h = before ++ n :: after) : doc.ancestors n = after := by
  induction before generalizing h with
  | nil =>
    rw [List.nil_append, List.cons.injEq] at hp
    rw [← hp.1]
    exact hp.2
  | cons first rest ih =>
    rw [List.cons_append, List.cons.injEq] at hp
    cases hparent : doc.parent? h with
    | none =>
      rw [ancestors_of_parent?_none hparent] at hp
      exact absurd hp.2.symm (List.append_ne_nil_of_right_ne_nil _ (List.cons_ne_nil _ _))
    | some p =>
      apply ih (h := p)
      rw [← hp.2, ht.ancestors_eq hparent]

/-- Operations leave the root listeners alone. -/
theorem rootListeners_run (doc : Document) (operation : Operation) :
    (operation.run doc).rootListeners = doc.rootListeners := by
  cases operation with
  | createElement | createText | createComment | createPlaceholder | createFragment => rfl
  | appendChildren parent nodes => exact keepsListeners_appendChildren parent nodes doc
  | insertBefore reference nodes => exact keepsListeners_insertBefore reference nodes doc
  | insertAfter reference nodes => exact keepsListeners_insertAfter reference nodes doc
  | replaceWith old nodes => exact keepsListeners_replaceWith old nodes doc
  | detach node => exact keepsListeners_detach node doc
  | setText node text => exact keepsListeners_setText node text doc
  | setAttribute node name space value =>
    exact keepsListeners_setAttribute node name space value doc
  | removeAttribute node name space => exact keepsListeners_removeAttribute node name space doc
  | deepClone node => exact keepsListeners_deepClone node doc

/-- Operations install no root listener. -/
theorem rootListeners_afterOperations (operations : List Operation) :
    (afterOperations operations).rootListeners = [] := by
  have hrun : ∀ doc : Document,
      (operations.foldl Operation.run doc).rootListeners = doc.rootListeners := by
    induction operations with
    | nil => exact fun _ => rfl
    | cons operation rest ih => exact fun doc => (ih _).trans (rootListeners_run doc operation)
  exact hrun blank

end Document

namespace Delegation

/-- The page listens for an event exactly if some id does. -/
theorem hasRootListener_iff {d : Delegation} {doc : Document} (hb : d.Balanced doc)
    (name : String) : doc.hasRootListener name = true ↔ ∃ id, d.isListening id name = true := by
  rw [hb.tracks.listens, total, List.sum_pos_iff_exists_pos_nat]
  constructor
  · rintro ⟨units, hm, hpos⟩
    obtain ⟨⟨⟨id, other⟩, interest⟩, hentry, rfl⟩ := List.mem_map.mp hm
    have hname : other = name := by
      by_contra hne
      rw [share, if_neg hne] at hpos
      exact Nat.lt_irrefl 0 hpos
    subst hname
    refine ⟨id, ?_⟩
    rw [isListening, interest?, (Keyed.get?_eq_some_iff hb.distinct _ _).mpr hentry]
    rfl
  · rintro ⟨id, hl⟩
    obtain ⟨interest, hi⟩ := Option.isSome_iff_exists.mp hl
    have hentry := (Keyed.get?_eq_some_iff hb.distinct _ _).mp hi
    refine ⟨_, List.mem_map_of_mem hentry, ?_⟩
    rw [share, if_pos rfl]
    exact hb.positive id name interest hi

/-- An id listens for an event exactly if it has registrations. -/
theorem isListening_iff {d : Delegation} {doc : Document} (hb : d.Balanced doc) (id : NodeId)
    (name : String) : d.isListening id name = true ↔ 0 < d.interestCount id name := by
  unfold isListening interestCount
  cases hi : d.interest? id name with
  | none => exact ⟨nofun, fun h => absurd h (Nat.lt_irrefl 0)⟩
  | some interest => exact ⟨fun _ => hb.positive id name interest hi, fun _ => rfl⟩

end Delegation

namespace Page

/-- Some id names the node. -/
def Named (page : Page) (n : Handle) : Prop := ∃ id, page.bindings.lookup? id = some n

/-- Some id of the node listens for the event. -/
def ListensAt (page : Page) (n : Handle) (name : String) : Prop :=
  ∃ id, page.bindings.lookup? id = some n ∧ page.delegation.isListening id name = true

/-- The first node with an id on the way up from a node. -/
structure Nearest (page : Page) (h n : Handle) : Prop where
  path : page.document.AtOrAbove n h
  named : page.Named n
  first : ∀ m, page.document.AtOrAbove m h → page.Named m → page.document.AtOrAbove m n

/-- What a report of an event at a node says: its id speaks for the node, it bubbles if a node
further up listens, and there is a handler if the node itself does. -/
structure Reports (page : Page) (name : String) (n : Handle) (record : EventRecord) : Prop where
  speaker : page.bindings.idOf? n = some record.target
  bubbles : record.bubbles = true ↔ ∃ m, page.document.Above n m ∧ page.ListensAt m name
  handler : record.handler.isSome = true ↔ page.ListensAt n name

section

variable {page : Page}

/-- A node has no most recent id exactly when it is not named. -/
theorem idOf?_eq_none_iff (hs : page.bindings.Sound) (n : Handle) :
    page.bindings.idOf? n = none ↔ ¬ page.Named n := by
  rw [Bindings.idOf?, List.getLast?_eq_none_iff, List.eq_nil_iff_forall_not_mem]
  constructor
  · rintro h ⟨id, hl⟩
    exact h id ((hs.mem_idsOf_iff id n).mpr hl)
  · exact fun h id hm => h ⟨id, (hs.mem_idsOf_iff id n).mp hm⟩

/-- One of the ids of a node listens exactly when the node is listened at. -/
theorem mem_idsOf_listening_iff (hs : page.bindings.Sound) (n : Handle) (name : String) :
    (∃ id ∈ page.bindings.idsOf n, page.delegation.isListening id name = true) ↔
      page.ListensAt n name := by
  unfold ListensAt
  simp only [hs.mem_idsOf_iff]

/-- The target of an event is the nearest node with an id, if there is one. -/
theorem resolveTarget_cases (ht : page.document.Treelike) (hs : page.bindings.Sound) (h : Handle) :
    (Delegation.resolveTarget page.document page.bindings h = none ∧
      ∀ n, page.document.AtOrAbove n h → ¬ page.Named n) ∨
    ∃ n id, Delegation.resolveTarget page.document page.bindings h = some (n, id) ∧
      page.Nearest h n ∧ page.bindings.idOf? n = some id := by
  cases hr : Delegation.resolveTarget page.document page.bindings h with
  | none =>
    refine Or.inl ⟨rfl, fun n hn => ?_⟩
    have hnone := List.findSome?_eq_none_iff.mp hr n ((ht.mem_path_iff h n).mpr hn)
    exact (idOf?_eq_none_iff hs n).mp (Option.map_eq_none_iff.mp hnone)
  | some found =>
    obtain ⟨before, n, after, hpath, hn, hbefore⟩ := List.findSome?_eq_some_iff.mp hr
    obtain ⟨id, hid, rfl⟩ := Option.map_eq_some_iff.mp hn
    refine Or.inr ⟨n, id, rfl, ⟨?_, ?_, fun m hm hnamed => ?_⟩, hid⟩
    · rw [← ht.mem_path_iff, hpath]
      exact List.mem_append_right _ List.mem_cons_self
    · by_contra hnone
      rw [(idOf?_eq_none_iff hs n).mpr hnone] at hid
      cases hid
    · rw [← ht.mem_path_iff, hpath] at hm
      rw [← ht.mem_path_iff, ht.ancestors_of_path hpath]
      rcases List.mem_append.mp hm with hm | hm
      · have hnone := Option.map_eq_none_iff.mp (hbefore m hm)
        exact absurd hnamed ((idOf?_eq_none_iff hs m).mp hnone)
      · exact hm

/-- An event is dropped if no id listens for it or no node at or above its target has an id;
otherwise it is reported at the nearest node that has one. -/
theorem dispatch_cases (ht : page.document.Treelike) (hs : page.bindings.Sound)
    (hb : page.Balanced) (event : NativeEvent) :
    ((page.dispatch event).record = none ∧
      ((∀ id, page.delegation.isListening id event.name ≠ true) ∨
        ∀ n, page.document.AtOrAbove n event.target → ¬ page.Named n)) ∨
    ∃ n record, (page.dispatch event).record = some record ∧
      (∃ id, page.delegation.isListening id event.name = true) ∧
      page.Nearest event.target n ∧ page.Reports event.name n record := by
  have hroot := Delegation.hasRootListener_iff hb event.name
  unfold dispatch Delegation.dispatch
  by_cases hl : page.document.hasRootListener event.name = true
  · rw [if_pos hl]
    rcases resolveTarget_cases ht hs event.target with ⟨hr, hnone⟩ | ⟨n, id, hr, hnear, hid⟩
    · rw [hr]
      exact Or.inl ⟨rfl, Or.inr hnone⟩
    · rw [hr]
      refine Or.inr ⟨n, _, rfl, hroot.mp hl, hnear, hid, ?_, ?_⟩
      · simp only [List.any_eq_true, mem_idsOf_listening_iff hs, ht.mem_ancestors_iff]
      · rw [← mem_idsOf_listening_iff hs, List.findSome?_isSome_iff]
        simp only [List.mem_reverse, Delegation.handler?, Option.isSome_map]
        rfl
  · rw [if_neg hl]
    exact Or.inl ⟨rfl, Or.inl fun id hid => hl (hroot.mpr ⟨id, hid⟩)⟩

end

/-! ## Every event of every run -/

/-- Entries, root counts and root listeners agree after every run. -/
theorem balanced_afterBatches {document : Document} (hl : document.rootListeners = [])
    (strict : Bool) (batches : List (List Edit)) :
    ((ofDocument document strict).afterBatches batches).Balanced := by
  have hfollows := afterBatches_induction (P := Follows) (fun _ _ edit hf => hf.record edit)
    (fun _ _ hf => hf.clearOperands) batches (ofDocument document strict) .empty
    (follows_ofDocument hl strict)
  exact hfollows.balanced

/-- On every page that a run from a document without root listeners comes to, an event leads to a
report with a handler or a report that bubbles exactly if some node at or above its target has
an id with registrations for it. An event is reported exactly if some id listens for it and
some node at or above its target has an id. The report bears the id that was bound last to the
nearest such node, and it bubbles exactly if a node above that one listens. -/
theorem dispatch_reports (operations : List Document.Operation) (strict : Bool)
    (batches : List (List Edit)) (event : NativeEvent) :
    let start := ofDocument (Document.afterOperations operations) strict
    let page := start.afterBatches batches
    ((∃ n id, page.document.AtOrAbove n event.target ∧ page.bindings.lookup? id = some n ∧
        0 < page.delegation.interestCount id event.name) ↔
      ∃ record, (page.dispatch event).record = some record ∧
        (record.handler.isSome = true ∨ record.bubbles = true)) ∧
    (∀ record, (page.dispatch event).record = some record →
      ∃ n, page.Nearest event.target n ∧
        (page.bindings.mentions (start.history batches) n).getLast? = some record.target ∧
        (record.bubbles = true ↔ ∃ m, page.document.Above n m ∧ page.ListensAt m event.name)) ∧
    ((page.dispatch event).record.isSome = true ↔
      (∃ id, page.delegation.isListening id event.name = true) ∧
        ∃ n, page.document.AtOrAbove n event.target ∧ page.Named n) := by
  intro start page
  have hr : page.Reached := (Reached.start operations [] strict).afterBatches batches
  have hb : page.Balanced :=
    balanced_afterBatches (Document.rootListeners_afterOperations operations) strict batches
  have hrecalls : page.bindings.Recalls (start.history batches) :=
    recalls_afterBatches (Document.afterOperations operations) strict batches
  have hcounts : ∀ id, page.delegation.isListening id event.name = true ↔
      0 < page.delegation.interestCount id event.name :=
    fun id => Delegation.isListening_iff hb id event.name
  rcases dispatch_cases hr.wellFormed.tree hr.sound hb event with
    ⟨hnone, hwhy⟩ | ⟨n, record, hsome, hlistens, hnear, hreports⟩
  · have hnot : ∀ n id, page.document.AtOrAbove n event.target → page.Named n →
        page.delegation.isListening id event.name = true → False := by
      intro n id hn hnamed hid
      rcases hwhy with hquiet | hbare
      · exact hquiet id hid
      · exact hbare n hn hnamed
    rw [hnone]
    refine ⟨⟨?_, ?_⟩, nofun, nofun, ?_⟩
    · rintro ⟨n, id, hn, hl, hpos⟩
      exact (hnot n id hn ⟨id, hl⟩ ((hcounts id).mpr hpos)).elim
    · rintro ⟨_, h, -⟩
      cases h
    · rintro ⟨⟨id, hid⟩, n, hn, hnamed⟩
      exact (hnot n id hn hnamed hid).elim
  · rw [hsome]
    refine ⟨⟨?_, ?_⟩, ?_, ?_⟩
    · rintro ⟨m, id, hm, hl, hpos⟩
      have hlistensAt : page.ListensAt m event.name := ⟨id, hl, (hcounts id).mpr hpos⟩
      refine ⟨record, rfl, ?_⟩
      rcases hnear.first m hm ⟨id, hl⟩ with rfl | habove
      · exact Or.inl (hreports.handler.mpr hlistensAt)
      · exact Or.inr (hreports.bubbles.mpr ⟨m, habove, hlistensAt⟩)
    · rintro ⟨_, he, hsays⟩
      cases he
      rcases hsays with hhandler | hbubbles
      · obtain ⟨id, hl, hid⟩ := hreports.handler.mp hhandler
        exact ⟨n, id, hnear.path, hl, (hcounts id).mp hid⟩
      · obtain ⟨m, habove, id, hl, hid⟩ := hreports.bubbles.mp hbubbles
        exact ⟨m, id, hnear.path.above habove, hl, (hcounts id).mp hid⟩
    · intro _ he
      cases he
      exact ⟨n, hnear, (hrecalls.idOf? n).symm.trans hreports.speaker, hreports.bubbles⟩
    · exact ⟨fun _ => ⟨hlistens, n, hnear.path, hnear.named⟩, fun _ => rfl⟩

/-- A click on the text of an item is reported for the item, under the id that it got last, and
bubbles to the list. -/
example :
    let page := (ofDocument .blank true).afterBatches
      [[.createElement "ul" 1, .createElement "li" 2, .assignId [] 3, .setText 0 "tea",
        .appendChildren 1, .popRoot, .newEventListener "click" 1 (.text "pick")]]
    (page.document.children 5 = [6] ∧ page.document.parent? 5 = some 4) ∧
      ((page.dispatch ⟨"click", 6, .generic⟩).record.map fun record =>
        (record.target, record.bubbles, record.handler.isSome)) = some (3, true, false) := by
  decide +kernel

end Page

end PageHost
