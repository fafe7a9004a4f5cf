import PageHost.Proofs.Document.Transfer
import PageHost.Proofs.Page.Abort
import PageHost.Proofs.Page.Stamps
/-!
# Where inserted nodes come to stand

Nodes that are inserted beside a reference node can be its siblings, come from fragments
or stand anywhere else. The reference node keeps its place among those of its siblings
that stay, and the nodes come to stand next to it in their order.
-/

namespace PageHost.Document

/-- On pages that a run passes every live node stands somewhere. -/
theorem standing_of_passes {start page : Page} (hr : start.Reached) {batches : List (List Edit)}
    (hp : page ∈ start.passes batches) : page.document.Standing := by
  have hboth : page.WellFormed ∧ page.document.Standing :=
    Page.passes_invariant (P := fun page => page.WellFormed ∧ page.document.Standing)
      (fun _ edit h => ⟨(Page.settles_apply h.1 edit).wellFormed, Page.standing_apply h.1 h.2 edit⟩)
      (fun _ h => ⟨h.1.clearOperands, h.2⟩) ⟨hr.wellFormed, hr.standing⟩ batches page hp
  exact hboth.2

/-- On a reachable page all live nodes stand. -/
theorem Reachable.standing {doc : Document} (h : doc.Reachable) : doc.Standing := by
  induction h with
  | blank => exact standing_blank
  | run operation hr ih => exact standing_run ih hr.treelike operation
  | page batches hr hp => exact standing_of_passes hr hp

/-- Operations reach what can be reached. -/
theorem reachable_afterOperations (operations : List Operation) :
    (afterOperations operations).Reachable := by
  have hrun : ∀ doc : Document, doc.Reachable →
      (operations.foldl Operation.run doc).Reachable := by
    induction operations with
    | nil => exact fun _ h => h
    | cons operation rest ih => exact fun doc h => ih _ (.run operation h)
  exact hrun blank .blank

/-- Inserted nodes stand where they were put, in their order, and all other nodes keep their
places. Without the nodes that move the list of the container reads `before`, the reference node
and `later`: the nodes come right before the reference node, right after it, or in its place. -/
theorem insertions_put_nodes_in_place {doc : Document} (hr : doc.Reachable) {nodes : List Handle}
    (hn : (doc.dissolved nodes).Nodup) :
    (∀ parent after, appendChildren parent nodes doc = .ok () after →
      Transfer doc parent nodes []
        ((doc.children parent).filter (fun c => !decide (c ∈ doc.dissolved nodes)) ++
          doc.dissolved nodes) after) ∧
    ∀ reference parent, doc.parent? reference = some parent →
      reference ∈ doc.children parent → reference ∉ doc.dissolved nodes →
      ∃ before later,
        (doc.children parent).filter (fun c => !decide (c ∈ doc.dissolved nodes)) =
          before ++ reference :: later ∧
        (∀ after, insertBefore reference nodes doc = .ok () after →
          Transfer doc parent nodes [] (before ++ doc.dissolved nodes ++ reference :: later)
            after) ∧
        (∀ after, insertAfter reference nodes doc = .ok () after →
          Transfer doc parent nodes [] (before ++ reference :: (doc.dissolved nodes ++ later))
            after) ∧
        ∀ after, replaceWith reference nodes doc = .ok () after →
          Transfer doc parent nodes [reference] (before ++ doc.dissolved nodes ++ later)
            after := by
  have ht := hr.treelike
  have hs := hr.standing
  refine ⟨fun parent after h => transfer_appendChildren ht hs hn h, ?_⟩
  intro reference parent hup hl hout
  have hstays : reference ∈
      (doc.children parent).filter fun c => !decide (c ∈ doc.dissolved nodes) :=
    List.mem_filter.mpr ⟨hl, by simpa using hout⟩
  obtain ⟨before, later, hsplit⟩ := List.append_of_mem hstays
  refine ⟨before, later, hsplit, fun after h => ?_, fun after h => ?_, fun after h => ?_⟩
  · exact transfer_insertBefore ht hs hn hup hout hsplit h
  · exact transfer_insertAfter ht hs hn hup hsplit h
  · exact transfer_replaceWith ht hs hn hup hout hsplit h

/-- A list of three texts on the page. The last one and the two children of a fragment go right after
the first one; one of the children is a file control, which gets its button and label. -/
theorem insertions_put_nodes_in_place_texts :
    let doc := afterOperations [.createElement "ul" none, .createText "a", .createText "b",
      .createText "c", .createFragment, .createText "d", .createElement "input" none,
      .setAttribute 10 "type" none "file", .appendChildren body [4], .appendChildren 4 [5, 6, 7],
      .appendChildren 8 [9, 10]]
    doc.dissolved [7, 8] = [7, 9, 10] ∧ ∃ after, insertAfter 5 [7, 8] doc = .ok () after ∧
      Transfer doc 4 [7, 8] [] [5, 7, 9, 10, 6] after ∧ after.children 10 = [11, 12] := by
  intro doc
  have hr : doc.Reachable := reachable_afterOperations _
  have hmoved : doc.dissolved [7, 8] = [7, 9, 10] := by decide +kernel
  have hn : (doc.dissolved [7, 8]).Nodup := by
    rw [hmoved]
    decide
  have hup : doc.parent? 5 = some 4 := by decide +kernel
  have hl : doc.children 4 = [5, 6, 7] := by decide +kernel
  have hrun : insertAfter 5 [7, 8] doc = .ok () (left (insertAfter 5 [7, 8] doc)) :=
    eq_ok_of_given (by decide +kernel)
  obtain ⟨before, later, hsplit, -, hafter, -⟩ :=
    (insertions_put_nodes_in_place hr hn).2 5 4 hup (by rw [hl]; decide) (by rw [hmoved]; decide)
  rw [hl, hmoved] at hsplit
  have hplaces : before = [] ∧ later = [6] := by
    have hlist : [5, 6] = before ++ 5 :: later := hsplit
    cases before with
    | nil => exact ⟨rfl, (List.cons.inj hlist).2.symm⟩
    | cons c rest =>
      have hlater : [6] = rest ++ 5 :: later := (List.cons.inj hlist).2
      have hagain : 5 ∈ [6] := hlater ▸ List.mem_append_right rest List.mem_cons_self
      exact absurd hagain (by decide)
  obtain ⟨rfl, rfl⟩ := hplaces
  have htransfer := hafter _ hrun
  rw [hmoved] at htransfer
  exact ⟨hmoved, _, hrun, htransfer, by decide +kernel⟩

end PageHost.Document
