import PageHost.Proofs.Document.Listed
/-!
# The walk downwards

The walk keeps a stack of nodes still to visit. In a treelike document no node
comes onto the stack twice, so the walk ends within its bound, and it visits
exactly the nodes that are listed at or below its start. Where no node is lost
these are the nodes from which the walk upwards comes to the start.
-/

namespace PageHost.Document

/-- `Below doc top n` holds if child lists lead from `top` to `n`. -/
inductive Below (doc : Document) (top : Handle) : Handle → Prop where
  | here : Below doc top top
  | child {p c : Handle} : Below doc top p → c ∈ doc.children p → Below doc top c

/-- What is below a node that is below another is below that one. -/
theorem Below.trans {doc : Document} {a b c : Handle} (h : doc.Below a b) (h' : doc.Below b c) :
    doc.Below a c := by
  induction h' with
  | here => exact h
  | child _ hc ih => exact .child ih hc

/-- What is below a node is the node itself or below one of its children. -/
theorem below_iff {doc : Document} (h n : Handle) :
    doc.Below h n ↔ n = h ∨ ∃ c ∈ doc.children h, doc.Below c n := by
  constructor
  · intro hb
    induction hb with
    | here => exact Or.inl rfl
    | child _ hc ih =>
      rcases ih with rfl | ⟨d, hd, hb⟩
      · exact Or.inr ⟨_, hc, .here⟩
      · exact Or.inr ⟨d, hd, hb.child hc⟩
  · rintro (rfl | ⟨c, hc, hb⟩)
    · exact .here
    · exact Below.trans (.child .here hc) hb

section Treelike

/-- Documents with the same links have the same nodes below a node. -/
theorem Alike.below {a b : Document} (h : a.Alike b) {top n : Handle} (hb : a.Below top n) :
    b.Below top n := by
  induction hb with
  | here => exact .here
  | child _ hc ih =>
    apply ih.child
    rw [h.children]
    exact hc

variable {doc : Document}

/-- Going down lists leads to nodes from which going up leads back. -/
theorem Below.above (ht : doc.Treelike) {top n : Handle} (h : doc.Below top n) :
    n = top ∨ doc.Above n top := by
  induction h with
  | here => exact Or.inl rfl
  | @child p c _ hc ih =>
    have hp := ht.parent_of_mem p c hc
    rw [above_iff hp]
    rcases ih with rfl | ha
    · exact Or.inr (Or.inl rfl)
    · exact Or.inr (Or.inr ha)

/-- What is below a node that exists exists. -/
theorem Below.lt_size (ht : doc.Treelike) {top n : Handle} (h : doc.Below top n)
    (hs : top < doc.size) : n < doc.size := by
  cases h with
  | here => exact hs
  | child _ hc => exact ht.child_lt_size hc

/-- Where every node is listed, going up is undone by going down. -/
theorem below_of_above (ha : doc.AllListed) {n top : Handle} (h : doc.Above n top) :
    doc.Below top n := by
  induction h with
  | parent hp => exact .child .here (ha _ _ hp)
  | step hp _ ih => exact .child ih (ha _ _ hp)

/-! ## What is visited -/

/-- A number below the size is the number of a node. -/
theorem node?_of_lt_size {h : Handle} (hs : h < doc.size) : ∃ node, doc.node? h = some node := by
  rw [← Option.ne_none_iff_exists', ne_eq, node?_eq_none_iff]
  exact Nat.not_le.mpr hs

/-- Every node that exists has a kind. -/
theorem exists_kind? {h : Handle} (hs : h < doc.size) : ∃ kind, doc.kind? h = some kind := by
  obtain ⟨node, hn⟩ := node?_of_lt_size hs
  refine ⟨node.content.kind, ?_⟩
  rw [kind?, hn]
  rfl

/-- A walk that ends has visited what is below its stack. -/
theorem mem_of_visit (ht : doc.Treelike) {bound : Nat} {stack list : List Handle}
    (hs : ∀ s ∈ stack, s < doc.size) (h : doc.visit bound stack = some list) (n : Handle) :
    n ∈ list ↔ ∃ s ∈ stack, doc.Below s n := by
  induction bound generalizing stack list with
  | zero =>
    cases stack with
    | nil =>
      cases h
      simp
    | cons s rest => cases h
  | succ bound ih =>
    cases stack with
    | nil =>
      cases h
      simp
    | cons s rest =>
      obtain ⟨node, hn⟩ := node?_of_lt_size (hs s List.mem_cons_self)
      have hchildren : doc.children s = node.children := by rw [children, hn]
      rw [visit, hn] at h
      obtain ⟨later, hl, rfl⟩ := Option.map_eq_some_iff.mp h
      rw [← hchildren] at hl
      have hnext : ∀ x ∈ doc.children s ++ rest, x < doc.size := by
        intro x hx
        rcases List.mem_append.mp hx with hx | hx
        · exact ht.child_lt_size hx
        · exact hs x (List.mem_cons_of_mem s hx)
      rw [List.mem_cons, ih hnext hl]
      simp only [List.mem_append, List.mem_cons, or_and_right, exists_or, exists_eq_left]
      rw [below_iff s n, or_assoc]

/-- A state of the walk from `top`: the nodes seen and those on the stack are
all different, below `top`, and but for `top` listed by a node seen. -/
structure Walking (doc : Document) (top : Handle) (seen stack : List Handle) : Prop where
  nodup : (seen ++ stack).Nodup
  below : ∀ x ∈ seen ++ stack, doc.Below top x
  entered : ∀ x ∈ seen ++ stack, x = top ∨ ∃ p ∈ seen, x ∈ doc.children p

/-- The walk starts with the top as all that is to be visited. -/
theorem walking_start (doc : Document) (top : Handle) : Walking doc top [] [top] where
  nodup := List.nodup_cons.mpr ⟨List.not_mem_nil, List.nodup_nil⟩
  below x hx := by
    rw [List.mem_singleton.mp hx]
    exact .here
  entered x hx := Or.inl (List.mem_singleton.mp hx)

namespace Walking

variable {top h : Handle} {seen rest : List Handle}

/-- The children of the node on top of the stack have not been met before. -/
theorem fresh (ht : doc.Treelike) (hw : Walking doc top seen (h :: rest)) {c : Handle}
    (hc : c ∈ doc.children h) : c ∉ seen ++ h :: rest := by
  intro hm
  have hp := ht.parent_of_mem h c hc
  rcases hw.entered c hm with rfl | ⟨p, hps, hcp⟩
  · have hh : h ∈ seen ++ h :: rest := List.mem_append_right _ List.mem_cons_self
    apply ht.not_above_self c
    rw [above_iff hp]
    rcases (hw.below h hh).above ht with rfl | ha
    · exact Or.inl rfl
    · exact Or.inr ha
  · have he := ht.lister_unique hcp hc
    subst he
    exact (List.nodup_append.mp hw.nodup).2.2 p hps p List.mem_cons_self rfl

/-- One visit leads to the next state. -/
theorem step (ht : doc.Treelike) (hw : Walking doc top seen (h :: rest)) :
    Walking doc top (h :: seen) (doc.children h ++ rest) where
  nodup := by
    have hperm : (h :: seen ++ (doc.children h ++ rest)).Perm
        (doc.children h ++ (seen ++ h :: rest)) := by
      have h1 : (h :: seen ++ (doc.children h ++ rest)).Perm
          (doc.children h ++ (h :: seen ++ rest)) := by
        rw [← List.append_assoc, ← List.append_assoc]
        exact List.perm_append_comm.append_right rest
      exact h1.trans (List.perm_middle.symm.append_left _)
    rw [hperm.nodup_iff, List.nodup_append]
    refine ⟨ht.nodup h, hw.nodup, ?_⟩
    rintro c hc x hx rfl
    exact hw.fresh ht hc hx
  below x hx := by
    have hh : doc.Below top h := hw.below h (List.mem_append_right _ List.mem_cons_self)
    rw [List.cons_append, List.mem_cons, List.mem_append, List.mem_append] at hx
    rcases hx with rfl | hx | hx | hx
    · exact hh
    · exact hw.below x (List.mem_append_left _ hx)
    · exact hh.child hx
    · exact hw.below x (List.mem_append_right _ (List.mem_cons_of_mem h hx))
  entered x hx := by
    rw [List.cons_append, List.mem_cons, List.mem_append, List.mem_append] at hx
    have hold : x ∈ seen ++ h :: rest → x = top ∨ ∃ p ∈ h :: seen, x ∈ doc.children p := by
      intro hm
      rcases hw.entered x hm with he | ⟨p, hp, hxp⟩
      · exact Or.inl he
      · exact Or.inr ⟨p, List.mem_cons_of_mem h hp, hxp⟩
    rcases hx with rfl | hx | hx | hx
    · exact hold (List.mem_append_right _ List.mem_cons_self)
    · exact hold (List.mem_append_left _ hx)
    · exact Or.inr ⟨h, List.mem_cons_self, hx⟩
    · exact hold (List.mem_append_right _ (List.mem_cons_of_mem h hx))

/-- No more nodes are met than there are. -/
theorem length_le {stack : List Handle} (ht : doc.Treelike) (hs : top < doc.size)
    (hw : Walking doc top seen stack) : seen.length + stack.length ≤ doc.size := by
  have hsub : seen ++ stack ⊆ List.range doc.size := by
    intro x hx
    exact List.mem_range.mpr ((hw.below x hx).lt_size ht hs)
  have hlen := hw.nodup.length_le_of_subset hsub
  rwa [List.length_append, List.length_range] at hlen

end Walking

/-- The walk ends within its bound. -/
theorem visit_of_walking (ht : doc.Treelike) {top : Handle} (hs : top < doc.size) {bound : Nat}
    {seen stack : List Handle} (hw : Walking doc top seen stack)
    (hb : seen.length + bound = doc.size + 1) : ∃ list, doc.visit bound stack = some list := by
  induction bound generalizing seen stack with
  | zero =>
    have hlen := hw.length_le ht hs
    omega
  | succ bound ih =>
    cases stack with
    | nil => exact ⟨[], rfl⟩
    | cons h rest =>
      have hh : h < doc.size :=
        (hw.below h (List.mem_append_right _ List.mem_cons_self)).lt_size ht hs
      obtain ⟨node, hn⟩ := node?_of_lt_size hh
      have hchildren : doc.children h = node.children := by rw [children, hn]
      have hlength : (h :: seen).length + bound = doc.size + 1 := by
        rw [List.length_cons]
        omega
      obtain ⟨later, hl⟩ := ih (hw.step ht) hlength
      refine ⟨h :: later, ?_⟩
      rw [visit, hn]
      rw [hchildren] at hl
      dsimp only
      rw [hl]
      rfl

/-- The walk downwards lists exactly what is at or below its start. -/
theorem mem_descendants_iff (ht : doc.Treelike) {top : Handle} (hs : top < doc.size) (n : Handle) :
    n ∈ doc.descendants top ↔ doc.Below top n := by
  obtain ⟨list, hl⟩ := visit_of_walking ht hs (walking_start doc top) (Nat.zero_add _)
  rw [descendants, hl, Option.getD_some, mem_of_visit ht (by simpa using hs) hl]
  simp

/-- A node is connected when it is the root or below the root. -/
theorem isConnected_iff (ht : doc.Treelike) (n : Handle) :
    doc.isConnected n = true ↔ n = root ∨ doc.Above n root := by
  rw [isConnected, Bool.or_eq_true, beq_iff_eq, List.contains_iff_mem, ht.mem_ancestors_iff]

/-- Where every node is listed, the nodes found downwards from the root are those
that find the root upwards. -/
theorem mem_descendants_root_iff (ht : doc.Treelike) (ha : doc.AllListed) (hs : root < doc.size)
    (n : Handle) : n ∈ doc.descendants root ↔ doc.isConnected n = true := by
  rw [mem_descendants_iff ht hs, isConnected_iff ht]
  constructor
  · exact fun hb => hb.above ht
  · rintro (rfl | hu)
    · exact .here
    · exact below_of_above ha hu

end Treelike

end PageHost.Document
