import PageHost.Proofs.Document.Views
/-!
# Treelike documents

The two links of a node, up to its parent and down to its children, are stored
apart. A document is treelike if a listed child has the lister for its parent,
no list repeats a node, going up always ends, parents are containers, and
documents and fragments have no parent. A node may still have a parent that does
not list it.

In a treelike document the bounded walk upwards is never cut off.
-/

namespace PageHost.Document

/-- What the links of a document always satisfy. -/
structure Treelike (doc : Document) : Prop where
  /-- A listed child has the lister for its parent. -/
  parent_of_mem : ∀ p c, c ∈ doc.children p → doc.parent? c = some p
  /-- No node is listed twice by one parent. -/
  nodup : ∀ p, (doc.children p).Nodup
  /-- Going from a node to its parent, and on from there, comes to an end. -/
  rises : WellFounded fun p c => doc.parent? c = some p
  /-- A parent exists and is of a kind that holds children. -/
  holder : ∀ c p, doc.parent? c = some p → ∃ kind, doc.kind? p = some kind ∧ kind.holdsChildren
  /-- A node with a parent is neither a document nor a fragment. -/
  inner : ∀ c p, doc.parent? c = some p →
    doc.kind? c ≠ some .document ∧ doc.kind? c ≠ some .fragment

/-- `Above doc c a` holds if going up from `c` once or more leads to `a`. -/
inductive Above (doc : Document) : Handle → Handle → Prop where
  | parent {c p : Handle} : doc.parent? c = some p → Above doc c p
  | step {c p a : Handle} : doc.parent? c = some p → Above doc p a → Above doc c a

/-- What is above a node that is above another is above that one. -/
theorem Above.trans {doc : Document} {a b c : Handle} (h : doc.Above a b) (h' : doc.Above b c) :
    doc.Above a c := by
  induction h with
  | parent hp => exact .step hp h'
  | step hp _ ih => exact .step hp (ih h')

/-- What is above a node with a parent is the parent or above it. -/
theorem above_iff {doc : Document} {c p : Handle} (hp : doc.parent? c = some p) (a : Handle) :
    doc.Above c a ↔ a = p ∨ doc.Above p a := by
  constructor
  · intro h
    cases h with
    | parent hq =>
      rw [hp] at hq
      exact Or.inl (Option.some.inj hq).symm
    | step hq ha =>
      rw [hp] at hq
      cases hq
      exact Or.inr ha
  · rintro (rfl | ha)
    · exact .parent hp
    · exact .step hp ha

/-- Nothing is above a node without a parent. -/
theorem not_above_of_parent?_none {doc : Document} {c a : Handle} (hp : doc.parent? c = none) :
    ¬ doc.Above c a := by
  intro h
  cases h with
  | parent hq =>
    rw [hp] at hq
    cases hq
  | step hq _ =>
    rw [hp] at hq
    cases hq

/-! ## Links of a treelike document -/

namespace Treelike

variable {doc : Document}

/-- A parent exists. -/
theorem parent_lt_size (ht : doc.Treelike) {c p : Handle} (hp : doc.parent? c = some p) :
    p < doc.size := by
  obtain ⟨kind, hk, -⟩ := ht.holder c p hp
  exact lt_size_of_kind? hk

theorem child_lt_size (ht : doc.Treelike) {p c : Handle} (hc : c ∈ doc.children p) :
    c < doc.size := lt_size_of_parent? (ht.parent_of_mem p c hc)

/-- No node is listed by two parents. -/
theorem lister_unique (ht : doc.Treelike) {p q c : Handle} (hp : c ∈ doc.children p)
    (hq : c ∈ doc.children q) : p = q := by
  have h := ht.parent_of_mem p c hp
  rw [ht.parent_of_mem q c hq] at h
  exact (Option.some.inj h).symm

/-- Only containers list children. -/
theorem container_of_mem (ht : doc.Treelike) {p c : Handle} (hc : c ∈ doc.children p) :
    ∃ kind, doc.kind? p = some kind ∧ kind.holdsChildren :=
  ht.holder c p (ht.parent_of_mem p c hc)

/-- No node is above itself. -/
theorem not_above_self (ht : doc.Treelike) (h : Handle) : ¬ doc.Above h h := by
  induction h using ht.rises.induction with
  | _ h ih =>
    intro ha
    cases ha with
    | parent hp => exact ih h hp (.parent hp)
    | step hp hq => exact ih _ hp (hq.trans (.parent hp))

/-- What is above a node exists. -/
theorem above_lt_size (ht : doc.Treelike) {c a : Handle} (h : doc.Above c a) : a < doc.size := by
  induction h with
  | parent hp => exact ht.parent_lt_size hp
  | step _ _ ih => exact ih

/-! ## The walk upwards -/

/-- The ancestors that are collected are above the node. -/
theorem above_of_mem_ancestorsWithin {bound : Nat} {h a : Handle}
    (hm : a ∈ doc.ancestorsWithin bound h) : doc.Above h a := by
  induction bound generalizing h with
  | zero => cases hm
  | succ bound ih =>
    rw [ancestorsWithin] at hm
    cases hp : doc.parent? h with
    | none =>
      rw [hp] at hm
      cases hm
    | some p =>
      rw [hp] at hm
      rcases List.mem_cons.mp hm with rfl | hm
      · exact .parent hp
      · exact .step hp (ih hm)

/-- The walk upwards meets no node twice, nor the node it starts from. -/
theorem nodup_ancestorsWithin (ht : doc.Treelike) (bound : Nat) (h : Handle) :
    (h :: doc.ancestorsWithin bound h).Nodup := by
  have hstart : ∀ bound h, h ∉ doc.ancestorsWithin bound h := fun bound h hm =>
    ht.not_above_self h (above_of_mem_ancestorsWithin hm)
  rw [List.nodup_cons]
  refine ⟨hstart bound h, ?_⟩
  induction bound generalizing h with
  | zero => exact List.nodup_nil
  | succ bound ih =>
    rw [ancestorsWithin]
    cases doc.parent? h with
    | none => exact List.nodup_nil
    | some p => exact List.nodup_cons.mpr ⟨hstart bound p, ih p⟩

/-- A walk that stops before its bound has met all that is above. -/
theorem mem_ancestorsWithin_of_above {bound : Nat} {h a : Handle}
    (hl : (doc.ancestorsWithin bound h).length < bound) (ha : doc.Above h a) :
    a ∈ doc.ancestorsWithin bound h := by
  induction bound generalizing h with
  | zero => cases hl
  | succ bound ih =>
    rw [ancestorsWithin] at hl ⊢
    cases hp : doc.parent? h with
    | none => exact absurd ha (not_above_of_parent?_none hp)
    | some p =>
      rw [hp] at hl
      rcases (above_iff hp a).mp ha with rfl | ha
      · exact List.mem_cons_self
      · exact List.mem_cons_of_mem p (ih (Nat.lt_of_succ_lt_succ hl) ha)

/-- A walk upwards is shorter than the number of nodes. -/
theorem length_ancestorsWithin_lt (ht : doc.Treelike) (bound : Nat) {h : Handle}
    (hs : h < doc.size) : (doc.ancestorsWithin bound h).length < doc.size := by
  have hsub : h :: doc.ancestorsWithin bound h ⊆ List.range doc.size := by
    intro a ha
    rw [List.mem_range]
    rcases List.mem_cons.mp ha with rfl | ha
    · exact hs
    · exact ht.above_lt_size (above_of_mem_ancestorsWithin ha)
  have hlen := (ht.nodup_ancestorsWithin bound h).length_le_of_subset hsub
  rw [List.length_range] at hlen
  exact hlen

/-- The nodes that the walk upwards lists are exactly those above. -/
theorem mem_ancestors_iff (ht : doc.Treelike) (h a : Handle) :
    a ∈ doc.ancestors h ↔ doc.Above h a := by
  constructor
  · exact above_of_mem_ancestorsWithin
  · intro ha
    have hs : h < doc.size := by
      cases ha with
      | parent hp => exact lt_size_of_parent? hp
      | step hp _ => exact lt_size_of_parent? hp
    exact mem_ancestorsWithin_of_above (ht.length_ancestorsWithin_lt doc.size hs) ha

/-- A node without a parent has no ancestors. -/
theorem ancestors_of_parent?_none {h : Handle} (hp : doc.parent? h = none) :
    doc.ancestors h = [] := by
  rw [ancestors]
  cases doc.size with
  | zero => rfl
  | succ n => rw [ancestorsWithin, hp]

/-- A walk that stops before its bound does not change with a greater bound. -/
theorem ancestorsWithin_succ {bound : Nat} {h : Handle}
    (hl : (doc.ancestorsWithin bound h).length < bound) :
    doc.ancestorsWithin (bound + 1) h = doc.ancestorsWithin bound h := by
  induction bound generalizing h with
  | zero => exact absurd hl (Nat.not_lt_zero _)
  | succ bound ih =>
    rw [ancestorsWithin] at hl
    rw [ancestorsWithin, ancestorsWithin]
    cases hp : doc.parent? h with
    | none => rfl
    | some p =>
      rw [hp] at hl
      have hrest := ih (Nat.lt_of_succ_lt_succ hl)
      exact congrArg (p :: ·) hrest

/-- The nodes above a node are its parent and those above the parent. -/
theorem ancestors_eq (ht : doc.Treelike) {h p : Handle} (hp : doc.parent? h = some p) :
    doc.ancestors h = p :: doc.ancestors p := by
  have hsize : 0 < doc.size := Nat.lt_of_le_of_lt (Nat.zero_le _) (lt_size_of_parent? hp)
  obtain ⟨n, hn⟩ : ∃ n, doc.size = n + 1 := ⟨doc.size - 1, by omega⟩
  have hshort : (doc.ancestorsWithin n p).length < n := by
    have hl := ht.length_ancestorsWithin_lt (n + 1) (lt_size_of_parent? hp)
    rw [ancestorsWithin, hp, hn] at hl
    exact Nat.lt_of_succ_lt_succ hl
  rw [ancestors, ancestors, hn, ancestorsWithin_succ hshort, ancestorsWithin, hp]

end Treelike

/-- The node is the other one or above it. -/
def AtOrAbove (doc : Document) (n h : Handle) : Prop := n = h ∨ doc.Above h n

/-- What is above a node on the way up is on the way up. -/
theorem AtOrAbove.above {doc : Document} {n m h : Handle} (hn : doc.AtOrAbove n h)
    (hm : doc.Above n m) : doc.AtOrAbove m h := by
  rcases hn with rfl | hn
  · exact Or.inr hm
  · exact Or.inr (hn.trans hm)

/-- The path of a node consists of what is at or above it. -/
theorem Treelike.mem_path_iff {doc : Document} (ht : doc.Treelike) (h n : Handle) :
    n ∈ h :: doc.ancestors h ↔ doc.AtOrAbove n h := by
  rw [List.mem_cons, ht.mem_ancestors_iff, AtOrAbove]

/-! ## The same tree -/

/-- Documents with the same kinds, parents and children are treelike together. -/
theorem Treelike.congr {a b : Document} (ht : a.Treelike) (hk : ∀ h, b.kind? h = a.kind? h)
    (hp : ∀ h, b.parent? h = a.parent? h) (hc : ∀ h, b.children h = a.children h) :
    b.Treelike where
  parent_of_mem p c hm := by
    rw [hc] at hm
    rw [hp]
    exact ht.parent_of_mem p c hm
  nodup p := by
    rw [hc]
    exact ht.nodup p
  rises := by
    simp only [hp]
    exact ht.rises
  holder c p h := by
    rw [hp] at h
    rw [hk]
    exact ht.holder c p h
  inner c p h := by
    rw [hp] at h
    rw [hk]
    exact ht.inner c p h

/-- Documents with the same links are treelike together. -/
theorem Alike.treelike {a b : Document} (h : a.Alike b) (ht : a.Treelike) : b.Treelike :=
  ht.congr h.kind h.parent h.children

/-! ## The blank page -/

/-- The blank page has four nodes. -/
theorem eq_of_lt_four {n : Nat} (h : n < 4) : n = 0 ∨ n = 1 ∨ n = 2 ∨ n = 3 := by omega

/-- The links of the blank page, from child to parent. -/
theorem parent?_blank {c p : Handle} (h : blank.parent? c = some p) :
    (c = 1 ∧ p = 0) ∨ (c = 2 ∧ p = 1) ∨ (c = 3 ∧ p = 1) := by
  have hs : c < 4 := lt_size_of_parent? h
  rcases eq_of_lt_four hs with rfl | rfl | rfl | rfl
  · cases h
  · cases h
    exact Or.inl ⟨rfl, rfl⟩
  · cases h
    exact Or.inr (Or.inl ⟨rfl, rfl⟩)
  · cases h
    exact Or.inr (Or.inr ⟨rfl, rfl⟩)

theorem mem_children_blank {p c : Handle} (h : c ∈ blank.children p) :
    (c = 1 ∧ p = 0) ∨ (c = 2 ∧ p = 1) ∨ (c = 3 ∧ p = 1) := by
  have hs : p < 4 := lt_size_of_mem_children h
  rcases eq_of_lt_four hs with rfl | rfl | rfl | rfl
  · exact Or.inl ⟨List.mem_singleton.mp h, rfl⟩
  · have hc : c ∈ [2, 3] := h
    rw [List.mem_cons, List.mem_singleton] at hc
    rcases hc with rfl | rfl
    · exact Or.inr (Or.inl ⟨rfl, rfl⟩)
    · exact Or.inr (Or.inr ⟨rfl, rfl⟩)
  · cases h
  · cases h

/-- The blank page is treelike. -/
theorem treelike_blank : blank.Treelike where
  parent_of_mem p c h := by
    rcases mem_children_blank h with ⟨rfl, rfl⟩ | ⟨rfl, rfl⟩ | ⟨rfl, rfl⟩ <;> rfl
  nodup p := by
    by_cases hs : p < 4
    · rcases eq_of_lt_four hs with rfl | rfl | rfl | rfl <;> decide
    · rw [children_of_size_le (Nat.le_of_not_lt hs)]
      exact List.nodup_nil
  rises := by
    have hlt : ∀ {p c : Handle}, blank.parent? c = some p → p < c := by
      intro p c h
      rcases parent?_blank h with ⟨rfl, rfl⟩ | ⟨rfl, rfl⟩ | ⟨rfl, rfl⟩ <;> decide
    exact Subrelation.wf (fun h => hlt h) Nat.lt_wfRel.wf
  holder c p h := by
    rcases parent?_blank h with ⟨rfl, rfl⟩ | ⟨rfl, rfl⟩ | ⟨rfl, rfl⟩
    · exact ⟨.document, rfl, rfl⟩
    · exact ⟨.element, rfl, rfl⟩
    · exact ⟨.element, rfl, rfl⟩
  inner c p h := by
    rcases parent?_blank h with ⟨rfl, rfl⟩ | ⟨rfl, rfl⟩ | ⟨rfl, rfl⟩ <;> decide

end PageHost.Document
