import PageHost.Proofs.Document.Relink
import PageHost.Proofs.Run
/-!
# Insertions

The four operations that insert nodes check first and then do the same: they take
the moved nodes from their places and link them under one container. `Insertion`
lists the ways in which such an operation can end. Whichever it is, a treelike
document stays treelike.
-/

namespace PageHost.Document

/-! ## Steps in sequence -/

/-- A test that succeeds leaves the document as it was. -/
theorem check_of_ok {α : Type} {test : Document → Except DomError α} {doc : Document} {a : α}
    (h : test doc = .ok a) : check test doc = .ok a doc := by
  unfold check
  rw [h]

theorem check_of_error {α : Type} {test : Document → Except DomError α} {doc : Document}
    {e : DomError} (h : test doc = .error e) : check test doc = .error e doc := by
  unfold check
  rw [h]

/-- Nodes that may be moved are unlinked first. -/
theorem prepare_of_ok {doc : Document} {parent : Handle} {nodes moved : List Handle}
    (h : doc.movable parent nodes = .ok moved) :
    prepare parent nodes doc = .ok moved (doc.unlinkAll moved) := by
  unfold prepare
  rw [h]

theorem prepare_of_error {doc : Document} {parent : Handle} {nodes : List Handle} {e : DomError}
    (h : doc.movable parent nodes = .error e) : prepare parent nodes doc = .error e doc := by
  unfold prepare
  rw [h]

/-! ## Checks -/

/-- The kind of a node is given back when the node exists. -/
theorem kindOf_ok_iff (doc : Document) (h : Handle) (kind : Kind) :
    doc.kindOf h = .ok kind ↔ doc.kind? h = some kind := by
  unfold kindOf
  cases doc.kind? h <;> simp

/-- Nodes may move below a parent when none of them is the document, the parent or an ancestor of
it. -/
theorem mayAllMove_ok_iff (doc : Document) (parent : Handle) (nodes : List Handle) :
    doc.mayAllMove parent nodes = .ok () ↔
      ∀ c ∈ nodes, (∃ kind, doc.kind? c = some kind ∧ kind ≠ .document) ∧ c ≠ parent ∧
        c ∉ doc.ancestors parent := by
  induction nodes with
  | nil => simp [mayAllMove]
  | cons h rest ih =>
    rw [mayAllMove, List.forall_mem_cons, ← ih]
    unfold kindOf
    cases hk : doc.kind? h with
    | none => simp
    | some kind =>
      dsimp only
      by_cases hbad : kind = .document ∨ h = parent ∨ h ∈ doc.ancestors parent
      · rw [if_pos hbad]
        simp only [reduceCtorEq, false_iff, not_and]
        rintro ⟨⟨k, he, hne⟩, hp, ha⟩
        cases he
        exact absurd hbad (by simp [hne, hp, ha])
      · rw [if_neg hbad]
        simp only [not_or] at hbad
        simp [hbad]

/-- What makes nodes movable: a parent that holds children, nodes that exist, and no cycle. -/
theorem movable_ok_iff (doc : Document) (parent : Handle) (nodes moved : List Handle) :
    doc.movable parent nodes = .ok moved ↔
      (∃ kind, doc.kind? parent = some kind ∧ kind.holdsChildren = true) ∧
        doc.flatten nodes = .ok moved ∧ doc.mayAllMove parent moved = .ok () := by
  unfold movable kindOf
  cases hk : doc.kind? parent with
  | none => simp
  | some kind =>
    dsimp only
    by_cases hholds : kind.holdsChildren = true
    · rw [if_pos hholds]
      cases hf : doc.flatten nodes with
      | error e => simp
      | ok list =>
        dsimp only
        cases hm : doc.mayAllMove parent list with
        | error e =>
          simp only [reduceCtorEq, Except.ok.injEq, false_iff]
          rintro ⟨-, rfl, hok⟩
          rw [hm] at hok
          cases hok
        | ok u =>
          simp only [Except.ok.injEq]
          constructor
          · rintro rfl
            exact ⟨⟨kind, rfl, hholds⟩, rfl, hm⟩
          · exact fun h => h.2.1
    · rw [if_neg hholds]
      simp [hholds]

/-- Nodes that are no fragments move themselves. -/
theorem flatten_of_inner {doc : Document} {nodes : List Handle}
    (hn : ∀ c ∈ nodes, ∃ kind, doc.kind? c = some kind ∧ kind ≠ .fragment) :
    doc.flatten nodes = .ok nodes := by
  induction nodes with
  | nil => rfl
  | cons c rest ih =>
    obtain ⟨kind, hk, hf⟩ := hn c List.mem_cons_self
    have hkof : doc.kindOf c = .ok kind := (kindOf_ok_iff doc c kind).mpr hk
    rw [flatten, hkof, ih fun d hd => hn d (List.mem_cons_of_mem c hd)]
    dsimp only
    rw [if_neg hf]
    rfl

/-- Nodes of the inner kinds may move under a container that they do not stand above. -/
theorem movable_of_inner {doc : Document} {parent : Handle} {kind : Kind}
    (hk : doc.kind? parent = some kind) (hholds : kind.holdsChildren) {nodes : List Handle}
    (hn : ∀ c ∈ nodes, ∃ own, doc.kind? c = some own ∧ own ≠ .document ∧ own ≠ .fragment)
    (hfree : ∀ c ∈ nodes, c ≠ parent ∧ c ∉ doc.ancestors parent) :
    doc.movable parent nodes = .ok nodes := by
  have hflat : doc.flatten nodes = .ok nodes := by
    apply flatten_of_inner
    intro c hc
    obtain ⟨own, hown, -, hf⟩ := hn c hc
    exact ⟨own, hown, hf⟩
  rw [movable_ok_iff, mayAllMove_ok_iff]
  refine ⟨⟨kind, hk, hholds⟩, hflat, fun c hc => ?_⟩
  obtain ⟨own, hown, hd, -⟩ := hn c hc
  exact ⟨⟨own, hown, hd⟩, hfree c hc⟩

/-- An anchor has a parent and is not among the nodes to be moved. -/
theorem anchorParent_ok {doc : Document} {reference parent : Handle} {nodes : List Handle}
    (h : doc.anchorParent reference nodes = .ok parent) :
    doc.parent? reference = some parent ∧ reference ∉ nodes := by
  unfold anchorParent at h
  split at h
  · split at h
    · cases h
    · rename_i p hp
      split at h
      · cases h
      · rename_i hn
        cases h
        exact ⟨hp, hn⟩
  · cases h

/-- A moved node is one of the nodes, or a child of a fragment among them. -/
theorem mem_of_flatten {doc : Document} {nodes moved : List Handle}
    (h : doc.flatten nodes = .ok moved) {c : Handle} (hc : c ∈ moved) :
    (c ∈ nodes ∧ doc.kind? c ≠ some .fragment) ∨
      ∃ f ∈ nodes, doc.kind? f = some .fragment ∧ c ∈ doc.children f := by
  induction nodes generalizing moved with
  | nil =>
    cases h
    cases hc
  | cons n rest ih =>
    rw [flatten] at h
    split at h
    · cases h
    · rename_i kind hk
      rw [kindOf_ok_iff] at hk
      split at h
      · cases h
      · rename_i later hl
        cases h
        rcases List.mem_append.mp hc with hc | hc
        · split at hc
          · rename_i hf
            exact Or.inr ⟨n, List.mem_cons_self, hf ▸ hk, hc⟩
          · rename_i hf
            rw [List.mem_singleton.mp hc]
            exact Or.inl ⟨List.mem_cons_self, by simpa [hk] using hf⟩
        · rcases ih hl hc with ⟨hm, hf⟩ | ⟨f, hm, hf⟩
          · exact Or.inl ⟨List.mem_cons_of_mem n hm, hf⟩
          · exact Or.inr ⟨f, List.mem_cons_of_mem n hm, hf⟩

/-- What has passed the checks may be put in place once it is taken from its places. -/
theorem placeable_of_movable {doc : Document} {parent : Handle} {nodes moved : List Handle}
    (ht : doc.Treelike) (h : doc.movable parent nodes = .ok moved) :
    (doc.unlinkAll moved).Placeable parent moved := by
  obtain ⟨hcontainer, hflat, hmay⟩ := (movable_ok_iff doc parent nodes moved).mp h
  rw [mayAllMove_ok_iff] at hmay
  have hl := loosened_unlinkAll ht moved
  refine ⟨?_, ?_, ?_, ?_, ?_⟩
  · rw [hl.kind]
    exact hcontainer
  · intro c hc
    obtain ⟨⟨kind, hk, -⟩, -⟩ := hmay c hc
    rw [hl.lt_size_iff]
    exact lt_size_of_kind? hk
  · intro c hc
    rw [hl.parent, if_pos hc]
  · intro c hc
    rw [hl.kind]
    obtain ⟨⟨kind, hk, hne⟩, -⟩ := hmay c hc
    refine ⟨by simpa [hk] using hne, ?_⟩
    rcases mem_of_flatten hflat hc with ⟨-, hf⟩ | ⟨f, -, -, hm⟩
    · exact hf
    · exact (ht.inner c f (ht.parent_of_mem f c hm)).2
  · intro c hc
    obtain ⟨-, hne, ha⟩ := hmay c hc
    refine ⟨hne, fun habove => ha ?_⟩
    rw [ht.mem_ancestors_iff]
    exact hl.above habove

/-! ## How an insertion ends -/

/-- Splicing adds the nodes somewhere. -/
theorem perm_spliceBefore (anchor : Handle) (nodes siblings : List Handle) :
    (spliceBefore anchor nodes siblings).Perm (siblings ++ nodes) := by
  unfold spliceBefore
  have hsplit := List.takeWhile_append_dropWhile
    (p := fun h => !decide (h = anchor)) (l := siblings)
  conv => rhs; rw [← hsplit]
  rw [List.append_assoc, List.append_assoc]
  exact List.Perm.append_left _ List.perm_append_comm

/-- The ways in which an operation that inserts nodes can end. -/
inductive Insertion (doc : Document) (nodes : List Handle) :
    EStateM.Result DomError Document Unit → Prop where
  /-- A check fails, and nothing has changed. -/
  | refused (e : DomError) : Insertion doc nodes (.error e doc)
  /-- The nodes have left their places when the anchor turns out to have none. -/
  | stuck {parent : Handle} {moved : List Handle} (anchor : Handle) :
      doc.movable parent nodes = .ok moved →
      Insertion doc nodes (.error (.unlistedAnchor anchor) (doc.unlinkAll moved))
  /-- The nodes are linked under a container. -/
  | linked {parent : Handle} {moved : List Handle} (place : List Handle → List Handle) :
      doc.movable parent nodes = .ok moved → (∀ list, (place list).Perm (list ++ moved)) →
      Insertion doc nodes (.ok () ((doc.unlinkAll moved).link parent place moved))
  /-- The nodes are linked, and the one they replace is taken from its place. -/
  | replaced {parent : Handle} {moved : List Handle} (old : Handle)
      (place : List Handle → List Handle) :
      doc.movable parent nodes = .ok moved → (∀ list, (place list).Perm (list ++ moved)) →
      old ∈ (doc.unlinkAll moved).children parent →
      Insertion doc nodes (.ok () (((doc.unlinkAll moved).link parent place moved).unlink old))

/-- Linking before a listed anchor. -/
theorem linkBefore_of_mem {doc : Document} {anchor parent : Handle} (nodes : List Handle)
    (hp : doc.parent? anchor = some parent) (hm : anchor ∈ doc.children parent) :
    linkBefore anchor nodes doc = .ok () (doc.link parent (spliceBefore anchor nodes) nodes) := by
  unfold linkBefore
  rw [hp]
  exact if_pos hm

/-- Linking before an anchor that is not listed stops there. -/
theorem linkBefore_of_not_mem {doc : Document} {anchor : Handle} (nodes : List Handle)
    (h : ∀ parent, doc.parent? anchor = some parent → anchor ∉ doc.children parent) :
    linkBefore anchor nodes doc = .error (.unlistedAnchor anchor) doc := by
  unfold linkBefore
  cases hp : doc.parent? anchor with
  | none => rfl
  | some parent => exact if_neg (h parent hp)

/-- Appending children is an insertion. -/
theorem insertion_appendChildren (doc : Document) (parent : Handle) (nodes : List Handle) :
    Insertion doc nodes (appendChildren parent nodes doc) := by
  unfold appendChildren
  rw [run_bind]
  cases hm : doc.movable parent nodes with
  | error e =>
    rw [prepare_of_error hm]
    exact .refused e
  | ok moved =>
    rw [prepare_of_ok hm]
    exact .linked (· ++ moved) hm fun _ => List.Perm.refl _

/-- Nodes that are added at the end leave their places and are linked there. -/
theorem appendChildren_ok {doc doc' : Document} {parent : Handle} {nodes : List Handle}
    (h : appendChildren parent nodes doc = .ok () doc') :
    ∃ moved, doc.movable parent nodes = .ok moved ∧
      doc' = (doc.unlinkAll moved).link parent (· ++ moved) moved := by
  unfold appendChildren at h
  cases hm : doc.movable parent nodes with
  | error e =>
    rw [run_bind_of_error (prepare_of_error hm)] at h
    cases h
  | ok moved =>
    rw [run_bind_of_ok (prepare_of_ok hm)] at h
    cases h
    exact ⟨moved, rfl, rfl⟩

/-- Linking before an anchor, after nodes have left their places: the anchor is listed by the
parent that it had, or the operation stops. -/
theorem linkBefore_unlinkAll {doc : Document} (ht : doc.Treelike) {anchor parent : Handle}
    (hp : doc.parent? anchor = some parent) (moved : List Handle) :
    (anchor ∈ (doc.unlinkAll moved).children parent ∧
      linkBefore anchor moved (doc.unlinkAll moved) =
        .ok () ((doc.unlinkAll moved).link parent (spliceBefore anchor moved) moved)) ∨
    linkBefore anchor moved (doc.unlinkAll moved) =
      .error (.unlistedAnchor anchor) (doc.unlinkAll moved) := by
  have hl := loosened_unlinkAll ht moved
  by_cases hm : anchor ∈ (doc.unlinkAll moved).children parent
  · have hup := (hl.treelike ht).parent_of_mem parent anchor hm
    exact Or.inl ⟨hm, linkBefore_of_mem moved hup hm⟩
  · refine Or.inr (linkBefore_of_not_mem moved fun q hq => ?_)
    have hold := (hl.parent_of_some hq).2
    rw [hp] at hold
    cases hold
    exact hm

/-- The operations beside a reference node check it and the nodes before anything moves, so
they end well if their last step does. -/
theorem insertion_beside {doc : Document} {reference : Handle} {nodes : List Handle}
    {finish : Handle → List Handle → Change Unit}
    (h : ∀ parent moved, doc.parent? reference = some parent →
      doc.movable parent nodes = .ok moved →
      Insertion doc nodes (finish parent moved (doc.unlinkAll moved))) :
    Insertion doc nodes ((do
      let parent ← check fun doc => doc.anchorParent reference nodes
      let moved ← prepare parent nodes
      finish parent moved : Change Unit) doc) := by
  cases ha : doc.anchorParent reference nodes with
  | error e =>
    rw [run_bind_of_error (check_of_error ha)]
    exact .refused e
  | ok parent =>
    rw [run_bind_of_ok (check_of_ok ha)]
    cases hm : doc.movable parent nodes with
    | error e =>
      rw [run_bind_of_error (prepare_of_error hm)]
      exact .refused e
    | ok moved =>
      rw [run_bind_of_ok (prepare_of_ok hm)]
      exact h parent moved (anchorParent_ok ha).1 hm

theorem insertion_insertBefore {doc : Document} (ht : doc.Treelike) (reference : Handle)
    (nodes : List Handle) : Insertion doc nodes (insertBefore reference nodes doc) := by
  apply insertion_beside
  intro parent moved hp hm
  rcases linkBefore_unlinkAll ht hp moved with ⟨-, hok⟩ | hstop
  · rw [hok]
    exact .linked _ hm fun list => perm_spliceBefore reference moved list
  · rw [hstop]
    exact .stuck reference hm

/-- The next sibling is a child of the same parent. -/
theorem mem_children_of_nextSibling? {doc : Document} {parent h next : Handle}
    (hn : doc.nextSibling? parent h = some next) : next ∈ doc.children parent := by
  unfold nextSibling? at hn
  exact (List.dropWhile_sublist _).subset (List.mem_of_getElem? hn)

/-- Inserting after a node is an insertion: the next sibling is still listed when the nodes are
linked before it, so this does not stop. -/
theorem insertion_insertAfter {doc : Document} (ht : doc.Treelike) (reference : Handle)
    (nodes : List Handle) : Insertion doc nodes (insertAfter reference nodes doc) := by
  apply insertion_beside
  intro parent moved _ hm
  have htree := (loosened_unlinkAll ht moved).treelike ht
  have hget : (get : Change Document) (doc.unlinkAll moved) =
      .ok (doc.unlinkAll moved) (doc.unlinkAll moved) := rfl
  rw [run_bind_of_ok hget]
  cases hn : (doc.unlinkAll moved).nextSibling? parent reference with
  | none => exact .linked (· ++ moved) hm fun _ => List.Perm.refl _
  | some next =>
    have hmem := mem_children_of_nextSibling? hn
    have hrun := linkBefore_of_mem moved (htree.parent_of_mem parent next hmem) hmem
    dsimp only
    rw [hrun]
    exact .linked _ hm fun list => perm_spliceBefore next moved list

theorem insertion_replaceWith {doc : Document} (ht : doc.Treelike) (old : Handle)
    (nodes : List Handle) : Insertion doc nodes (replaceWith old nodes doc) := by
  apply insertion_beside
  intro parent moved hp hm
  rcases linkBefore_unlinkAll ht hp moved with ⟨hmem, hok⟩ | hstop
  · rw [run_bind_of_ok hok]
    exact .replaced old _ hm (fun list => perm_spliceBefore old moved list) hmem
  · rw [run_bind_of_error hstop]
    exact .stuck old hm

/-! ## What an insertion leaves -/

/-- An insertion leaves a treelike document treelike, however it ends. -/
theorem Insertion.treelike {doc : Document} (ht : doc.Treelike) {nodes : List Handle}
    {result : EStateM.Result DomError Document Unit} (h : Insertion doc nodes result) :
    (left result).Treelike := by
  cases h with
  | refused e => exact ht
  | stuck anchor hm => exact (loosened_unlinkAll ht _).treelike ht
  | linked place hm hperm =>
    exact treelike_link ((loosened_unlinkAll ht _).treelike ht) (placeable_of_movable ht hm) (hperm _)
  | replaced old place hm hperm =>
    have hlinked := treelike_link ((loosened_unlinkAll ht _).treelike ht)
      (placeable_of_movable ht hm) (hperm _)
    exact (loosened_unlink hlinked old).treelike hlinked

end PageHost.Document
