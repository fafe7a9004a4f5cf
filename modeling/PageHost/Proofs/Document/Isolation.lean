import PageHost.Proofs.Document.Operations
import PageHost.Proofs.Document.Shape
/-!
# Subtrees that nobody writes to

A node without a parent stands at the top of a tree of its own, made of the nodes that
find it on their way up. Operations on other nodes neither change a node of that tree nor
bring one into it or out of it, whatever they move, empty or dissolve elsewhere. Copying
only reads, so a node of the tree may be copied.
-/

namespace PageHost.Document

/-- The node belongs to the tree of `top`: it is `top` or has it among its ancestors. -/
def Inside (doc : Document) (top h : Handle) : Prop := top ∈ h :: doc.ancestors h

/-- The tree of `top` is the same in both documents: the same nodes in the same order, and each of
them with the same content, parent and children. -/
structure SameTree (top : Handle) (a b : Document) : Prop where
  inside : ∀ h, b.Inside top h ↔ a.Inside top h
  node? : ∀ h, a.Inside top h → b.node? h = a.node? h
  descendants : b.descendants top = a.descendants top
  tree? : b.tree? top = a.tree? top

/-- The nodes that an operation may write to: its arguments, but for a node that it only copies. -/
def Operation.targets : Operation → List Handle
  | .createElement .. | .createText _ | .createComment _ | .createPlaceholder
  | .createFragment | .deepClone _ => []
  | .appendChildren parent nodes => parent :: nodes
  | .insertBefore reference nodes | .insertAfter reference nodes => reference :: nodes
  | .replaceWith old nodes => old :: nodes
  | .detach node | .setText node _ | .setAttribute node _ _ _ | .removeAttribute node _ _ => [node]

/-- Each operation of a run may write to allowed nodes only when its turn comes. -/
def Along (allowed : Document → Handle → Prop) (doc : Document) : List Operation → Prop
  | [] => True
  | operation :: rest =>
    (∀ x ∈ operation.targets, allowed doc x) ∧ Along allowed (operation.run doc) rest

instance decidableInside (doc : Document) (top h : Handle) : Decidable (doc.Inside top h) :=
  inferInstanceAs (Decidable (top ∈ h :: doc.ancestors h))

instance decidableAlong {allowed : Document → Handle → Prop}
    [∀ doc x, Decidable (allowed doc x)] :
    (doc : Document) → (operations : List Operation) → Decidable (Along allowed doc operations)
  | _, [] => isTrue trivial
  | doc, operation :: rest =>
    have : Decidable (Along allowed (operation.run doc) rest) := decidableAlong _ rest
    instDecidableAnd (p := ∀ x ∈ operation.targets, allowed doc x)

/-- A weaker condition on what operations may touch is met as well. -/
theorem Along.mono {allowed allowed' : Document → Handle → Prop}
    (hle : ∀ doc x, allowed doc x → allowed' doc x) {doc : Document} {operations : List Operation}
    (h : Along allowed doc operations) : Along allowed' doc operations := by
  induction operations generalizing doc with
  | nil => trivial
  | cons operation rest ih => exact ⟨fun x hx => hle doc x (h.1 x hx), ih h.2⟩

variable {region : Handle → Prop} {a b : Document} {top h : Handle}

/-! ## The region of a tree -/

/-- Inside a subtree is what is at its top or below it. -/
theorem Treelike.inside_iff (ht : a.Treelike) : a.Inside top h ↔ a.AtOrAbove top h :=
  ht.mem_path_iff h top

/-- The top is inside. -/
theorem inside_self (doc : Document) (top : Handle) : doc.Inside top top := List.mem_cons_self

/-- A node is in the tree of another one if its parent is. -/
theorem Treelike.inside_child_iff (ht : a.Treelike) {p : Handle} (hp : a.parent? h = some p) :
    a.Inside top h ↔ top = h ∨ a.Inside top p := by
  rw [ht.inside_iff, ht.inside_iff, AtOrAbove, above_iff hp, AtOrAbove]

/-- Children of what is inside are inside. -/
theorem Treelike.inside_of_mem (ht : a.Treelike) {p c : Handle} (hp : a.Inside top p)
    (hc : c ∈ a.children p) : a.Inside top c :=
  (ht.inside_child_iff (ht.parent_of_mem p c hc)).mpr (Or.inr hp)

/-- The inside of a subtree that stands nowhere is closed. -/
theorem closed_inside (ht : a.Treelike) (hs : top < a.size) (hp : a.parent? top = none) :
    Closed (a.Inside top) a where
  exist x hx := by
    rw [ht.inside_iff] at hx
    rcases hx with rfl | hx
    · exact hs
    · cases hx with
      | parent hq => exact lt_size_of_parent? hq
      | step hq _ => exact lt_size_of_parent? hq
  lister p c hc hr := by
    have hparent := ht.parent_of_mem p c hc
    rcases (ht.inside_child_iff hparent).mp hr with rfl | hin
    · rw [hp] at hparent
      cases hparent
    · exact hin

/-- What is not in a tree has its parent outside too. -/
theorem clear_of_not_inside (ht : a.Treelike) (hx : ¬ a.Inside top h) :
    Clear (a.Inside top) a h :=
  ⟨hx, fun _ hp hr => hx ((ht.inside_child_iff hp).mpr (Or.inr hr))⟩

/-- A node without a parent is in no tree but its own. -/
theorem eq_of_inside {g : Handle} (ht : a.Treelike) (hg : a.parent? g = none)
    (hin : a.Inside top g) : top = g := by
  rw [ht.inside_iff] at hin
  rcases hin with he | hup
  · exact he
  · exact absurd hup (not_above_of_parent?_none hg)

/-- Trees of different nodes without parents have no node in common. Going up from a node there is
one way, and it ends at the first node without a parent. -/
theorem Treelike.not_inside_both (ht : a.Treelike) {g : Handle} (hg : a.parent? g = none)
    (hp : a.parent? top = none) (hne : g ≠ top) (hin : a.Inside g h) : ¬ a.Inside top h := by
  have hup : ∀ x z, a.Above x z → z = g → ¬ a.Inside top x := by
    intro x z hxz
    induction hxz with
    | parent hq =>
      rintro rfl
      rw [ht.inside_child_iff hq]
      rintro (rfl | hin)
      · rw [hp] at hq
        cases hq
      · exact hne (eq_of_inside ht hg hin).symm
    | step hq _ ih =>
      intro he
      rw [ht.inside_child_iff hq]
      rintro (rfl | hin)
      · rw [hp] at hq
        cases hq
      · exact ih he hin
  rw [ht.inside_iff] at hin
  rcases hin with rfl | hin
  · exact fun hin => hne (eq_of_inside ht hg hin).symm
  · exact hup h g hin rfl

/-! ## Operations -/

/-- An operation whose targets are clear of a region leaves it alone. -/
theorem spares_run (h : Closed region a) (ht : a.Treelike) (operation : Operation)
    (hx : ∀ x ∈ operation.targets, Clear region a x) : Spares region a (operation.run a) := by
  have hnone : ∀ p, (none : Option Handle) = some p → ¬ region p := nofun
  cases operation with
  | createElement tag space => exact spares_push h _ false hnone
  | createText text => exact spares_push h _ false hnone
  | createComment text => exact spares_push h _ false hnone
  | createPlaceholder => exact spares_push h _ false hnone
  | createFragment => exact spares_push h _ false hnone
  | appendChildren parent nodes =>
    obtain ⟨hparent, hnodes⟩ := List.forall_mem_cons.mp hx
    exact leaves_appendChildren h ht hparent.1 hnodes
  | insertBefore reference nodes =>
    obtain ⟨hreference, hnodes⟩ := List.forall_mem_cons.mp hx
    exact leaves_insertBefore h ht hreference hnodes
  | insertAfter reference nodes =>
    obtain ⟨hreference, hnodes⟩ := List.forall_mem_cons.mp hx
    exact leaves_insertAfter h ht hreference hnodes
  | replaceWith old nodes =>
    obtain ⟨hold, hnodes⟩ := List.forall_mem_cons.mp hx
    exact leaves_replaceWith h ht hold hnodes
  | detach node => exact leaves_detach h (hx node (List.mem_singleton_self node))
  | setText node text => exact leaves_setText h ht (hx node (List.mem_singleton_self node)).1 text
  | setAttribute node name space value =>
    exact leaves_setAttribute h (hx node (List.mem_singleton_self node)).1 name space value
  | removeAttribute node name space =>
    exact leaves_removeAttribute h (hx node (List.mem_singleton_self node)).1 name space
  | deepClone node => exact leaves_deepClone h ht node

/-- A node is in the tree of `top` in a second document too if each step of its way up to `top`
is one there. -/
theorem Treelike.inside_of_steps (ha : a.Treelike) (hb : b.Treelike)
    (hstep : ∀ c p, a.parent? c = some p → a.Inside top p → b.Inside top p →
      b.parent? c = some p) {x : Handle} (hin : a.Inside top x) : b.Inside top x := by
  have hup : ∀ y z, a.Above y z → z = top → b.Inside top y := by
    intro y z hyz
    induction hyz with
    | @parent c p hp =>
      rintro rfl
      have hparent := hstep c p hp (inside_self a p) (inside_self b p)
      exact (hb.inside_child_iff hparent).mpr (Or.inr (inside_self b p))
    | @step c p z hp hpz ih =>
      rintro rfl
      have hold := ha.inside_iff.mpr (Or.inr hpz)
      exact (hb.inside_child_iff (hstep c p hp hold (ih rfl))).mpr (Or.inr (ih rfl))
  rw [ha.inside_iff] at hin
  rcases hin with rfl | hin
  · exact inside_self b top
  · exact hup x top hin rfl

/-- A tree that is left alone keeps its nodes and gets no others. -/
theorem Spares.inside_iff (h : Spares (a.Inside top) a b) (ha : a.Treelike) (hb : b.Treelike)
    (x : Handle) : b.Inside top x ↔ a.Inside top x := by
  constructor
  · exact hb.inside_of_steps ha fun c p hp _ hin => h.parent c p hp hin
  · refine ha.inside_of_steps hb fun c p hp hin _ => ?_
    have hc := (ha.inside_child_iff hp).mpr (Or.inr hin)
    exact (parent?_of_node?_eq (h.same c hc)).trans hp

/-! ## The walk downwards -/

section Walk

variable (hsame : ∀ x, region x → b.node? x = a.node? x)
  (hdown : ∀ p c, region p → c ∈ a.children p → region c)
include hsame hdown

/-- The walk from nodes of a spared region finds the same on both sides. -/
theorem visit_congr (bound : Nat) {stack : List Handle} (hr : ∀ x ∈ stack, region x) :
    b.visit bound stack = a.visit bound stack := by
  induction bound generalizing stack with
  | zero => cases stack <;> rfl
  | succ bound ih =>
    cases stack with
    | nil => rfl
    | cons x rest =>
      obtain ⟨hx, hrest⟩ := List.forall_mem_cons.mp hr
      rw [visit, visit, hsame x hx]
      cases hn : a.node? x with
      | none => exact ih hrest
      | some node =>
        have hchildren : a.children x = node.children := by rw [children, hn]
        have hstack : ∀ y ∈ node.children ++ rest, region y := by
          intro y hy
          rcases List.mem_append.mp hy with hy | hy
          · exact hdown x y hx (hchildren ▸ hy)
          · exact hrest y hy
        dsimp only
        rw [ih hstack]

omit hsame hdown in
/-- A walk that ends within its bound ends within a greater one. -/
theorem visit_of_le {doc : Document} {bound more : Nat} (hle : bound ≤ more)
    {stack list : List Handle} (h : doc.visit bound stack = some list) :
    doc.visit more stack = some list := by
  induction bound generalizing more stack list with
  | zero =>
    cases stack with
    | nil =>
      cases h
      cases more <;> rfl
    | cons x rest => cases h
  | succ bound ih =>
    obtain ⟨more, rfl⟩ := Nat.exists_eq_add_of_le' (Nat.lt_of_lt_of_le (Nat.succ_pos bound) hle)
    cases stack with
    | nil => exact h
    | cons x rest =>
      have hle := Nat.le_of_succ_le_succ hle
      rw [visit] at h ⊢
      cases hn : doc.node? x with
      | none =>
        rw [hn] at h
        exact ih hle h
      | some node =>
        rw [hn] at h
        obtain ⟨later, hl, rfl⟩ := Option.map_eq_some_iff.mp h
        dsimp only
        rw [ih hle hl]
        rfl

/-- Nodes that lead to each other and stay as they are are listed in the same order. -/
theorem descendants_congr (ht : a.Treelike) (hs : top < a.size) (hle : a.size ≤ b.size)
    (hr : region top) : b.descendants top = a.descendants top := by
  obtain ⟨list, hl⟩ := visit_of_walking ht hs (walking_start a top) (Nat.zero_add _)
  have hlonger := visit_of_le (Nat.succ_le_succ hle) hl
  have hstack : ∀ x ∈ [top], region x := fun x hx => List.mem_singleton.mp hx ▸ hr
  unfold descendants
  rw [visit_congr hsame hdown _ hstack, hl, hlonger]

end Walk

/-- A subtree whose inside is spared stays the same tree. -/
theorem Spares.sameTree (h : Spares (a.Inside top) a b) (ha : a.Treelike) (hb : b.Treelike)
    (hs : top < a.size) (hle : a.size ≤ b.size) : SameTree top a b where
  inside := h.inside_iff ha hb
  node? := h.same
  descendants :=
    descendants_congr h.same (fun _ _ => ha.inside_of_mem) ha hs hle (inside_self a top)
  tree? := by
    obtain ⟨tree, ht⟩ := tree?_isSome ha hs
    have hshown : b.Shows top tree :=
      Shows.congr (a.Inside top) (fun x hx _ => h.same x hx) (fun _ _ => ha.inside_of_mem)
        (inside_self a top) tree ((shows_iff ha top tree).mpr ht)
    rw [ht]
    exact (shows_iff hb top tree).mp hshown

/-! ## Runs -/

/-- Operations drop no nodes. -/
theorem size_le_foldl_run (ht : a.Treelike) (operations : List Operation) :
    a.size ≤ (operations.foldl Operation.run a).size := by
  induction operations generalizing a with
  | nil => exact Nat.le_refl _
  | cons operation rest ih =>
    exact Nat.le_trans (size_le_run ht operation) (ih (treelike_run ht operation))

/-- A run that writes to nodes outside a tree leaves the tree alone. Nodes that are known to be
outside at the start may be written to at any time. -/
theorem spares_foldl_run (ht : a.Treelike) (hs : top < a.size) (hp : a.parent? top = none)
    {known : Handle → Prop} (hknown : ∀ x, known x → ¬ a.Inside top x)
    {operations : List Operation}
    (h : Along (fun now x => known x ∨ ¬ now.Inside top x) a operations) :
    Spares (a.Inside top) a (operations.foldl Operation.run a) := by
  induction operations generalizing a with
  | nil => exact .refl (closed_inside ht hs hp)
  | cons operation rest ih =>
    obtain ⟨hfirst, hrest⟩ := h
    have hstep : Spares (a.Inside top) a (operation.run a) := by
      apply spares_run (closed_inside ht hs hp) ht
      intro x hx
      exact clear_of_not_inside ht ((hfirst x hx).elim (hknown x) id)
    have ht' := treelike_run ht operation
    have hinside : (operation.run a).Inside top = a.Inside top :=
      funext fun x => propext (hstep.inside_iff ht ht' x)
    have hp' : (operation.run a).parent? top = none :=
      (parent?_of_node?_eq (hstep.same top (inside_self a top))).trans hp
    have hlater := ih ht' (Nat.lt_of_lt_of_le hs (size_le_run ht operation)) hp'
      (fun x hx => hinside ▸ hknown x hx) hrest
    rw [hinside] at hlater
    exact hstep.trans hlater

/-- A subtree that no operation of a run touches stays the same tree. -/
theorem sameTree_foldl_run (ht : a.Treelike) (hs : top < a.size) (hp : a.parent? top = none)
    {known : Handle → Prop} (hknown : ∀ x, known x → ¬ a.Inside top x)
    {operations : List Operation}
    (h : Along (fun now x => known x ∨ ¬ now.Inside top x) a operations) :
    SameTree top a (operations.foldl Operation.run a) :=
  (spares_foldl_run ht hs hp hknown h).sameTree ht (treelike_foldl_run ht operations) hs
    (size_le_foldl_run ht operations)

end PageHost.Document
