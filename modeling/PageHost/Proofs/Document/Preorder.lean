import PageHost.Proofs.Document.Isolation
import PageHost.Template
/-!
# Document order

The walk downwards lists a node before what is below it, and what is below one child
before the next child. So `descendants` can be computed child by child, and a tree that
stands at a node finds its placeholders in the order in which the walk comes to them.
-/

namespace PageHost.Document

variable {doc : Document}

/-! ## The walk, child by child -/

/-- Walks over two stacks make up the walk over both. -/
theorem visit_append {bound more : Nat} {stack rest first later : List Handle}
    (h : doc.visit bound stack = some first) (h' : doc.visit more rest = some later) :
    doc.visit (bound + more) (stack ++ rest) = some (first ++ later) := by
  induction bound generalizing stack first with
  | zero =>
    cases stack with
    | nil =>
      cases h
      rw [Nat.zero_add]
      exact h'
    | cons x xs => cases h
  | succ bound ih =>
    cases stack with
    | nil =>
      cases h
      exact visit_of_le (Nat.le_add_left more _) h'
    | cons x xs =>
      rw [visit] at h
      rw [Nat.succ_add, List.cons_append, visit]
      cases hn : doc.node? x with
      | none =>
        rw [hn] at h
        exact ih h
      | some node =>
        rw [hn] at h
        obtain ⟨next, hnext, rfl⟩ := Option.map_eq_some_iff.mp h
        have hrest := ih hnext
        rw [List.append_assoc] at hrest
        dsimp only
        rw [hrest]
        rfl

/-- Walks that end have the same list, whatever their bounds. -/
theorem visit_unique {bound more : Nat} {stack first second : List Handle}
    (h : doc.visit bound stack = some first) (h' : doc.visit more stack = some second) :
    first = second := by
  have hfirst := visit_of_le (Nat.le_max_left bound more) h
  rw [visit_of_le (Nat.le_max_right bound more) h'] at hfirst
  exact (Option.some.inj hfirst).symm

/-- The walk ends within its bound and finds the descendants. -/
theorem visit_descendants (ht : doc.Treelike) {top : Handle} (hs : top < doc.size) :
    doc.visit (doc.size + 1) [top] = some (doc.descendants top) := by
  obtain ⟨list, hl⟩ := visit_of_walking ht hs (walking_start doc top) (Nat.zero_add _)
  rw [descendants, hl, Option.getD_some]

/-- A walk over several nodes walks down from one after the other. -/
theorem exists_visit_flatMap (ht : doc.Treelike) {nodes : List Handle}
    (hs : ∀ x ∈ nodes, x < doc.size) :
    ∃ bound, doc.visit bound nodes = some (nodes.flatMap doc.descendants) := by
  induction nodes with
  | nil => exact ⟨0, rfl⟩
  | cons x rest ih =>
    obtain ⟨bound, hrest⟩ := ih fun y hy => hs y (List.mem_cons_of_mem x hy)
    exact ⟨_, visit_append (visit_descendants ht (hs x List.mem_cons_self)) hrest⟩

/-- A node comes first, and after it what is below its children, one child after the other. -/
theorem descendants_eq (ht : doc.Treelike) {h : Handle} (hs : h < doc.size) :
    doc.descendants h = h :: (doc.children h).flatMap doc.descendants := by
  obtain ⟨node, hn⟩ := node?_of_lt_size hs
  have hchildren : doc.children h = node.children := by rw [children, hn]
  obtain ⟨bound, hbelow⟩ := exists_visit_flatMap ht fun c hc => ht.child_lt_size (p := h) hc
  have hwalk : doc.visit (bound + 1) [h] =
      some (h :: (doc.children h).flatMap doc.descendants) := by
    rw [visit, hn]
    dsimp only
    rw [List.append_nil, ← hchildren, hbelow]
    rfl
  exact visit_unique (visit_descendants ht hs) hwalk

/-- A walk meets no node that it has met before. -/
theorem nodup_of_visit (ht : doc.Treelike) {top : Handle} (hs : top < doc.size) {bound : Nat}
    {seen stack list : List Handle} (hw : Walking doc top seen stack)
    (h : doc.visit bound stack = some list) : (seen ++ list).Nodup := by
  induction bound generalizing seen stack list with
  | zero =>
    cases stack with
    | nil =>
      cases h
      exact hw.nodup
    | cons x rest => cases h
  | succ bound ih =>
    cases stack with
    | nil =>
      cases h
      exact hw.nodup
    | cons x rest =>
      have hx : x < doc.size :=
        (hw.below x (List.mem_append_right _ List.mem_cons_self)).lt_size ht hs
      obtain ⟨node, hn⟩ := node?_of_lt_size hx
      have hchildren : doc.children x = node.children := by rw [children, hn]
      rw [visit, hn] at h
      obtain ⟨later, hl, rfl⟩ := Option.map_eq_some_iff.mp h
      rw [← hchildren] at hl
      exact List.perm_middle.nodup_iff.mpr (ih (hw.step ht) hl)

/-- No node is among the descendants twice. -/
theorem nodup_descendants (ht : doc.Treelike) {top : Handle} (hs : top < doc.size) :
    (doc.descendants top).Nodup :=
  nodup_of_visit ht hs (walking_start doc top) (visit_descendants ht hs)

/-- A path that begins with the place of a child goes on from the child. -/
theorem atPath_comp_cons {h x : Handle} {before rest : List Handle}
    (hl : doc.children h = before ++ x :: rest) :
    doc.atPath h ∘ (before.length :: ·) = doc.atPath x := by
  have hchild : (doc.children h)[before.length]? = some x := by simp [hl]
  funext path
  show doc.atPath h (before.length :: path) = doc.atPath x path
  rw [atPath, hchild]
  rfl

/-! ## Placeholders -/

/-- The placeholders at or below a node, in document order. -/
def placeholders (doc : Document) (h : Handle) : List Handle :=
  (doc.descendants h).filter fun x => decide (doc.kind? x = some .placeholder)

/-- The placeholders of a subtree are its top, if it is one, and those of the children in order. -/
theorem placeholders_eq (ht : doc.Treelike) {h : Handle} (hs : h < doc.size) :
    doc.placeholders h = (if doc.kind? h = some .placeholder then [h] else []) ++
      (doc.children h).flatMap doc.placeholders := by
  unfold placeholders
  rw [descendants_eq ht hs, List.filter_cons, List.filter_flatMap]
  by_cases hk : doc.kind? h = some .placeholder
  · rw [if_pos hk, if_pos (decide_eq_true hk)]
    rfl
  · rw [if_neg hk, decide_eq_false hk]
    rfl

mutual

/-- The recorded paths of a tree lead to the placeholders in document order, wherever the tree
stands. -/
theorem map_slots (ht : doc.Treelike) {h : Handle} :
    (t : Tree) → doc.Shows h t →
      t.slots.map (doc.atPath h) = (doc.placeholders h).map some
  | .node content children, hshows => by
    have hkind : doc.kind? h = some .placeholder ↔ content = .placeholder := by
      rw [kind?_eq, hshows.1, Option.map_some, Option.some.injEq, Content.eq_placeholder_iff]
    have hbelow : (Tree.slotsFrom 0 children).map (doc.atPath h) =
        ((doc.children h).flatMap doc.placeholders).map some :=
      map_slotsFrom ht (List.nil_append _).symm children hshows.2
    rw [placeholders_eq ht (shows_lt_size hshows), Tree.slots, List.map_append, List.map_append,
      ← hbelow]
    by_cases hc : content = .placeholder
    · rw [if_pos hc, if_pos (hkind.mpr hc)]
      rfl
    · rw [if_neg hc, if_neg (mt hkind.mp hc)]
      rfl

/-- The same for trees that stand at the children of a node from a position on. -/
theorem map_slotsFrom (ht : doc.Treelike) {h : Handle} {before nodes : List Handle}
    (hl : doc.children h = before ++ nodes) :
    (trees : List Tree) → doc.ShowsAll nodes trees →
      (Tree.slotsFrom before.length trees).map (doc.atPath h) =
        (nodes.flatMap doc.placeholders).map some
  | [], hall => by
    cases nodes with
    | nil => rfl
    | cons x rest => exact hall.elim
  | t :: trees, hall => by
    cases nodes with
    | nil => exact hall.elim
    | cons x rest =>
      have hfirst := map_slots ht t hall.1
      have hregroup : doc.children h = (before ++ [x]) ++ rest := by
        rw [hl, List.append_assoc]
        rfl
      have hlater := map_slotsFrom ht hregroup trees hall.2
      rw [List.length_append, List.length_singleton] at hlater
      rw [Tree.slotsFrom, List.map_append, List.map_map, atPath_comp_cons hl, hfirst, hlater,
        List.flatMap_cons, List.map_append]

end

/-- Every recorded path is found again where the same tree stands. -/
theorem filterMap_slots (ht : doc.Treelike) {h : Handle} {t : Tree} (hs : doc.Shows h t) :
    t.slots.filterMap (doc.atPath h) = doc.placeholders h := by
  have hmap := map_slots ht t hs
  have hall := congrArg (List.filterMap id) hmap
  rwa [List.filterMap_map, List.filterMap_map, Function.id_comp, Function.id_comp,
    List.filterMap_some] at hall

end PageHost.Document
