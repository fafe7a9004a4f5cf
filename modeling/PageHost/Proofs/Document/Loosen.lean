import PageHost.Proofs.Document.Growth
/-!
# Taking nodes from their places

`Loosened` describes nodes taken from their places: they lose their parents, and
every list loses them. A treelike document stays treelike, and what stands above
a node afterwards stood above it before.
-/

namespace PageHost.Document

/-- Takes a node from its place, and leaves what is live as it is. -/
def cut (doc : Document) (h : Handle) : Document :=
  match doc.parent? h with
  | none => doc
  | some p => (doc.setParent h none).dropChild p h

/-- What a cut leaves and what taking a node out leaves differ in what is live only. -/
theorem alike_unlink (doc : Document) (h : Handle) : (doc.cut h).Alike (doc.unlink h) :=
  alike_markLive _ h false

/-- `b` is `a` with some nodes taken from their places. -/
structure Loosened (a : Document) (nodes : List Handle) (b : Document) : Prop where
  content : ∀ x, b.content? x = a.content? x
  parent : ∀ x, b.parent? x = if x ∈ nodes then none else a.parent? x
  children : ∀ x, b.children x = (a.children x).filter fun c => !decide (c ∈ nodes)

namespace Loosened

variable {a b c : Document} {nodes more : List Handle}

theorem kind (h : Loosened a nodes b) (x : Handle) : b.kind? x = a.kind? x := by
  rw [kind?_eq, kind?_eq, h.content]

/-- The same nodes exist. -/
theorem lt_size_iff (h : Loosened a nodes b) (x : Handle) : x < b.size ↔ x < a.size := by
  rw [Document.lt_size_iff, Document.lt_size_iff, h.content]

theorem size (h : Loosened a nodes b) : b.size = a.size := size_eq_of_content? h.content

/-- A node that has a parent afterwards was not taken out and had that parent. -/
theorem parent_of_some (h : Loosened a nodes b) {x p : Handle} (hp : b.parent? x = some p) :
    x ∉ nodes ∧ a.parent? x = some p := by
  rw [h.parent] at hp
  split at hp
  · cases hp
  · rename_i hx
    exact ⟨hx, hp⟩

/-- What is above a node afterwards was above it before. -/
theorem above (h : Loosened a nodes b) {x y : Handle} (ha : b.Above x y) : a.Above x y := by
  induction ha with
  | parent hp => exact .parent (h.parent_of_some hp).2
  | step hp _ ih => exact .step (h.parent_of_some hp).2 ih

/-- A treelike document stays treelike. -/
theorem treelike (h : Loosened a nodes b) (ht : a.Treelike) : b.Treelike := by
  apply ht.relink [] 0
  · exact fun x _ => h.kind x
  · exact fun x p hp => Or.inr ⟨List.not_mem_nil, (h.parent_of_some hp).2⟩
  · intro x hx
    cases hx
  · intro p x hx
    rw [h.children, List.mem_filter] at hx
    have hn : x ∉ nodes := by simpa using hx.2
    rw [h.parent, if_neg hn]
    exact ht.parent_of_mem p x hx.1
  · intro p
    rw [h.children]
    exact (ht.nodup p).filter _

/-- Nodes can be taken out in two steps. -/
theorem trans (h : Loosened a nodes b) (h' : Loosened b more c) :
    Loosened a (nodes ++ more) c where
  content x := (h'.content x).trans (h.content x)
  parent x := by
    rw [h'.parent, h.parent]
    by_cases hm : x ∈ more
    · simp [hm]
    · by_cases hx : x ∈ nodes <;> simp [hx, hm]
  children x := by
    rw [h'.children, h.children, List.filter_filter]
    apply List.filter_congr
    intro y _
    by_cases hm : y ∈ more <;> by_cases hx : y ∈ nodes <;> simp [hx, hm]

/-- A document with the same links as the loosened one is loosened as well. -/
theorem alike (h : Loosened a nodes b) (ha : b.Alike c) : Loosened a nodes c where
  content x := (ha.content x).trans (h.content x)
  parent x := (ha.parent x).trans (h.parent x)
  children x := (ha.children x).trans (h.children x)

/-- Taking away a node that has no parent does not show. -/
theorem add_parentless (h : Loosened a nodes b) (ht : a.Treelike)
    (hm : ∀ x ∈ more, x ∈ nodes ∨ a.parent? x = none) (hn : ∀ x ∈ nodes, x ∈ more) :
    Loosened a more b where
  content := h.content
  parent x := by
    rw [h.parent]
    by_cases hx : x ∈ nodes
    · rw [if_pos hx, if_pos (hn x hx)]
    · rw [if_neg hx]
      split
      · rename_i hxm
        exact (hm x hxm).resolve_left hx
      · rfl
  children x := by
    rw [h.children]
    apply List.filter_congr
    intro y hy
    have hp := ht.parent_of_mem x y hy
    by_cases hym : y ∈ more
    · rcases hm y hym with hyn | hnone
      · simp [hyn, hym]
      · rw [hp] at hnone
        cases hnone
    · have hyn : y ∉ nodes := fun hyn => hym (hn y hyn)
      simp [hyn, hym]

end Loosened

theorem loosened_nil (doc : Document) : Loosened doc [] doc where
  content _ := rfl
  parent x := by simp
  children x := (List.filter_eq_self.mpr (by simp)).symm

theorem loosened_cut {doc : Document} (ht : doc.Treelike) (h : Handle) :
    Loosened doc [h] (doc.cut h) := by
  have hkeep : ∀ x, doc.parent? h ≠ some x →
      (doc.children x).filter (fun c => !decide (c ∈ [h])) = doc.children x := by
    intro x hx
    rw [List.filter_eq_self]
    intro c hc
    have hne : c ≠ h := by
      rintro rfl
      exact hx (ht.parent_of_mem x c hc)
    simpa using hne
  unfold cut
  cases hp : doc.parent? h with
  | none =>
    refine ⟨fun _ => rfl, ?_, fun x => (hkeep x (by simp [hp])).symm⟩
    intro x
    dsimp only
    split
    · rename_i hx
      rw [List.mem_singleton.mp hx, hp]
    · rfl
  | some p =>
    refine ⟨fun x => by simp, ?_, ?_⟩
    · intro x
      rw [parent?_dropChild, parent?_setParent (lt_size_of_parent? hp)]
      by_cases hx : h = x
      · simp [hx]
      · simp [hx, Ne.symm hx]
    · intro x
      dsimp only
      rw [children_dropChild, children_setParent]
      split
      · simp
      · rename_i hx
        exact (hkeep x (by simpa [hp] using hx)).symm

/-- Taking a node out with all its marks loosens it. -/
theorem loosened_unlink {doc : Document} (ht : doc.Treelike) (h : Handle) :
    Loosened doc [h] (doc.unlink h) := (loosened_cut ht h).alike (alike_unlink doc h)

theorem loosened_foldl_unlink {doc : Document} (ht : doc.Treelike) (nodes : List Handle) :
    Loosened doc nodes (nodes.foldl unlink doc) := by
  induction nodes generalizing doc with
  | nil => exact loosened_nil doc
  | cons h rest ih =>
    have hone := loosened_unlink ht h
    exact hone.trans (ih (hone.treelike ht))

/-- Nodes that are taken out to be moved are loosened. -/
theorem loosened_unlinkAll {doc : Document} (ht : doc.Treelike) (nodes : List Handle) :
    Loosened doc nodes (doc.unlinkAll nodes) := by
  apply (loosened_foldl_unlink ht _).add_parentless ht
  · intro x hx
    by_cases hp : (doc.parent? x).isSome
    · exact Or.inl (List.mem_filter.mpr ⟨hx, hp⟩)
    · exact Or.inr (by simpa using hp)
  · exact fun x hx => (List.mem_filter.mp hx).1

end PageHost.Document
