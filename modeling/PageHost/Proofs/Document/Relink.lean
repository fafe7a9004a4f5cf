import PageHost.Proofs.Document.Loosen
/-!
# Putting nodes into a list

`Relinked` describes parentless nodes put into the list of one container: each
gets it for its parent, and the list keeps those that were put in once. A node
that was put in twice is dropped from the list and keeps its new parent. Linking
does this and then lets the document grow.
-/

namespace PageHost.Document

/-- Makes a listed node a child, and leaves what is live as it is. -/
def settle (parent : Handle) (doc : Document) (child : Handle) : Document :=
  match doc.parent? child with
  | none => doc.setParent child (some parent)
  | some p => (doc.setParent child (some parent)).dropChild p child

/-- Adopting a node settles it and lets the document grow. -/
theorem grows_adopt {base doc : Document} (hg : Grows base doc) (parent : Handle) {child : Handle}
    (hc : child < base.size) : Grows (settle parent base child) (adopt parent doc child) := by
  have hmoved : Grows (base.setParent child (some parent)) (doc.setParent child (some parent)) :=
    hg.setParent hc _
  have hentered : Grows (base.setParent child (some parent))
      (if doc.live parent ≠ doc.live child then (doc.setParent child (some parent)).enter child
        else doc.setParent child (some parent)) := by
    split
    · exact grows_enter hmoved child
    · exact hmoved
  unfold settle adopt
  rw [hg.parent?_eq hc]
  cases base.parent? child with
  | none => exact hentered
  | some p => exact hentered.dropChild p (by simpa using hc)

@[simp] theorem size_settle (parent : Handle) (doc : Document) (child : Handle) :
    (settle parent doc child).size = doc.size := by
  unfold settle
  split <;> simp

/-- Adopting nodes one after the other is settling them, up to what grows from the controls. -/
theorem grows_foldl_adopt {base doc : Document} (hg : Grows base doc) (parent : Handle)
    {nodes : List Handle} (hn : ∀ c ∈ nodes, c < base.size) :
    Grows (nodes.foldl (settle parent) base) (nodes.foldl (adopt parent) doc) := by
  induction nodes generalizing base doc with
  | nil => exact hg
  | cons c rest ih =>
    apply ih (grows_adopt hg parent (hn c List.mem_cons_self))
    intro x hx
    rw [size_settle]
    exact hn x (List.mem_cons_of_mem c hx)

/-- The children that a list loses while its nodes are settled: those that were
settled before, and those that are settled twice. -/
def Resettled (doc : Document) (parent : Handle) (nodes : List Handle) (c : Handle) : Prop :=
  c ∈ nodes ∧ (doc.parent? c = some parent ∨ 2 ≤ nodes.count c)

instance (doc : Document) (parent : Handle) (nodes : List Handle) (c : Handle) :
    Decidable (doc.Resettled parent nodes c) := inferInstanceAs (Decidable (_ ∧ _))

/-- The child that is settled has the new parent, and all others keep theirs. -/
theorem parent?_settle {doc : Document} (parent : Handle) {child : Handle} (hc : child < doc.size)
    (x : Handle) : (settle parent doc child).parent? x =
      if child = x then some parent else doc.parent? x := by
  unfold settle
  split <;> simp [parent?_setParent hc]

/-- Settling a child takes it off the list of the parent if it was there. -/
theorem children_settle {doc : Document} {parent child : Handle}
    (hp : doc.parent? child = none ∨ doc.parent? child = some parent) (x : Handle) :
    (settle parent doc child).children x =
      if parent = x then
        (doc.children x).filter fun c => !decide (c = child ∧ doc.parent? child = some parent)
      else doc.children x := by
  unfold settle
  rcases hp with hp | hp
  · rw [hp]
    have hall : (doc.children x).filter
        (fun c => !decide (c = child ∧ (none : Option Handle) = some parent)) = doc.children x :=
      List.filter_eq_self.mpr (by simp)
    rw [hall, ite_self]
    exact children_setParent _ _ _ _
  · rw [hp]
    simp [children_dropChild]

/-- Settling nodes that have no parent or are settled already. -/
theorem foldl_settle {doc : Document} (parent : Handle) {nodes : List Handle}
    (hn : ∀ c ∈ nodes, c < doc.size ∧ (doc.parent? c = none ∨ doc.parent? c = some parent)) :
    (∀ x, (nodes.foldl (settle parent) doc).content? x = doc.content? x) ∧
      (∀ x, (nodes.foldl (settle parent) doc).parent? x =
        if x ∈ nodes then some parent else doc.parent? x) ∧
      ∀ x, (nodes.foldl (settle parent) doc).children x =
        if parent = x then (doc.children x).filter (fun c => !decide (doc.Resettled parent nodes c))
        else doc.children x := by
  induction nodes generalizing doc with
  | nil =>
    have hall : ∀ x, (doc.children x).filter (fun c => !decide (doc.Resettled parent [] c)) =
        doc.children x := fun x => List.filter_eq_self.mpr (by simp [Resettled])
    simp [hall]
  | cons child rest ih =>
    obtain ⟨hcs, hcp⟩ := hn child List.mem_cons_self
    have hparent := fun x => parent?_settle parent hcs x
    have hrest : ∀ c ∈ rest, c < (settle parent doc child).size ∧
        ((settle parent doc child).parent? c = none ∨
          (settle parent doc child).parent? c = some parent) := by
      intro c hc
      obtain ⟨hs, hp⟩ := hn c (List.mem_cons_of_mem child hc)
      rw [size_settle, hparent]
      refine ⟨hs, ?_⟩
      split
      · exact Or.inr rfl
      · exact hp
    obtain ⟨hcontent, hpar, hch⟩ := ih hrest
    rw [List.foldl_cons]
    refine ⟨fun x => ?_, fun x => ?_, fun x => ?_⟩
    · rw [hcontent]
      unfold settle
      split <;> simp
    · rw [hpar, hparent]
      by_cases hx : x = child
      · simp [hx]
      · simp [hx, Ne.symm hx]
    · rw [hch, children_settle hcp]
      by_cases hx : parent = x
      · rw [if_pos hx, if_pos hx, if_pos hx, List.filter_filter]
        apply List.filter_congr
        intro c _
        rw [← Bool.not_or, ← Bool.decide_or]
        refine congrArg Bool.not (decide_eq_decide.mpr ?_)
        have hcount : c ∈ rest ↔ 0 < rest.count c := List.count_pos_iff.symm
        unfold Resettled
        rw [hparent, List.mem_cons, List.count_cons]
        by_cases hc : c = child
        · subst hc
          have htwice : 2 ≤ rest.count c + 1 ↔ 0 < rest.count c := by omega
          simp only [if_true, true_or, true_and, and_true, beq_self_eq_true, hcount, htwice]
          exact or_comm
        · have hb : (child == c) = false := by simpa using Ne.symm hc
          simp [hc, Ne.symm hc, hb]
      · rw [if_neg hx, if_neg hx, if_neg hx]

/-- `b` is `a` with nodes put into the list of one container. A node that is put
in more than once gets its parent but no place. -/
structure Relinked (a : Document) (container : Handle) (place : List Handle → List Handle)
    (nodes : List Handle) (b : Document) : Prop where
  content : ∀ x, b.content? x = a.content? x
  parent : ∀ x, b.parent? x = if x ∈ nodes then some container else a.parent? x
  children : ∀ x, b.children x =
    if container = x then (place (a.children x)).filter (fun c => !decide (2 ≤ nodes.count c))
    else a.children x

/-- What may be put into the list of a container: parentless nodes of the inner
kinds that neither are nor stand above the container. -/
structure Placeable (doc : Document) (parent : Handle) (nodes : List Handle) : Prop where
  container : ∃ kind, doc.kind? parent = some kind ∧ kind.holdsChildren
  exist : ∀ c ∈ nodes, c < doc.size
  parentless : ∀ c ∈ nodes, doc.parent? c = none
  inner : ∀ c ∈ nodes, doc.kind? c ≠ some .document ∧ doc.kind? c ≠ some .fragment
  free : ∀ c ∈ nodes, c ≠ parent ∧ ¬ doc.Above parent c

/-- What may be put into a list stands in no list yet. -/
theorem Placeable.not_listed {doc : Document} {parent : Handle} {nodes : List Handle}
    (h : doc.Placeable parent nodes) (ht : doc.Treelike) {c : Handle} (hc : c ∈ nodes)
    (p : Handle) : c ∉ doc.children p := by
  intro hm
  have hp := ht.parent_of_mem p c hm
  rw [h.parentless c hc] at hp
  cases hp

/-- Where no node has to come onto or leave the page, the nodes are put into the list and get
their parent. -/
theorem Placeable.relinked_settle {doc : Document} {parent : Handle} {nodes : List Handle}
    (h : doc.Placeable parent nodes) (place : List Handle → List Handle) :
    Relinked doc parent place nodes
      (nodes.foldl (settle parent) (doc.mapChildren parent place)) := by
  obtain ⟨kind, hk, -⟩ := h.container
  have hps : parent < doc.size := lt_size_of_kind? hk
  have hn : ∀ c ∈ nodes, c < (doc.mapChildren parent place).size ∧
      ((doc.mapChildren parent place).parent? c = none ∨
        (doc.mapChildren parent place).parent? c = some parent) := by
    intro c hc
    rw [size_mapChildren, parent?_mapChildren]
    exact ⟨h.exist c hc, Or.inl (h.parentless c hc)⟩
  obtain ⟨hcontent, hparent, hchildren⟩ := foldl_settle parent hn
  refine ⟨?_, ?_, ?_⟩
  · intro x
    rw [hcontent, content?_mapChildren]
  · intro x
    rw [hparent, parent?_mapChildren]
  · intro x
    rw [hchildren, children_mapChildren hps]
    split
    · apply List.filter_congr
      intro c _
      refine congrArg Bool.not (decide_eq_decide.mpr ?_)
      unfold Resettled
      rw [parent?_mapChildren]
      constructor
      · rintro ⟨hc, hp | hcount⟩
        · rw [h.parentless c hc] at hp
          cases hp
        · exact hcount
      · intro hcount
        exact ⟨List.count_pos_iff.mp (by omega), Or.inr hcount⟩
    · rfl

/-- Linking puts the nodes into the list and then lets the document grow. -/
theorem exists_relinked {doc : Document} {parent : Handle} {nodes : List Handle}
    (h : doc.Placeable parent nodes) (place : List Handle → List Handle) :
    ∃ b, Relinked doc parent place nodes b ∧ Grows b (doc.link parent place nodes) := by
  refine ⟨_, h.relinked_settle place, grows_foldl_adopt .refl parent fun c hc => ?_⟩
  rw [size_mapChildren]
  exact h.exist c hc

namespace Relinked

variable {a b : Document} {parent : Handle} {place : List Handle → List Handle}
  {nodes : List Handle}

theorem kind (h : Relinked a parent place nodes b) (x : Handle) : b.kind? x = a.kind? x := by
  rw [kind?_eq, kind?_eq, h.content]

theorem size (h : Relinked a parent place nodes b) : b.size = a.size :=
  size_eq_of_content? h.content

/-- How often a node stands in the new list before repeated nodes are dropped. -/
theorem count_place (hn : a.Placeable parent nodes) (ht : a.Treelike)
    (hperm : (place (a.children parent)).Perm (a.children parent ++ nodes)) (x : Handle) :
    (place (a.children parent)).count x =
      if x ∈ a.children parent then 1 else nodes.count x := by
  rw [hperm.count_eq, List.count_append, (ht.nodup parent).count]
  split
  · rename_i hx
    have hm : x ∉ nodes := fun hm => hn.not_listed ht hm parent hx
    rw [List.count_eq_zero.mpr hm]
  · exact Nat.zero_add _

/-- The new list holds the old children and those of the nodes that came once. -/
theorem count_children (h : Relinked a parent place nodes b) (hn : a.Placeable parent nodes)
    (ht : a.Treelike)
    (hperm : (place (a.children parent)).Perm (a.children parent ++ nodes)) (x : Handle) :
    (b.children parent).count x =
      if x ∈ a.children parent ∨ nodes.count x = 1 then 1 else 0 := by
  have hplace := count_place hn ht hperm x
  rw [h.children, if_pos rfl]
  by_cases htwice : 2 ≤ nodes.count x
  · have hold : x ∉ a.children parent := by
      intro hx
      have hp := hn.parentless x (List.count_pos_iff.mp (by omega))
      rw [ht.parent_of_mem parent x hx] at hp
      cases hp
    have hone : nodes.count x ≠ 1 := by omega
    rw [if_neg (by simp [hold, hone]), List.count_eq_zero, List.mem_filter]
    simp [htwice]
  · rw [List.count_filter (by simpa using htwice), hplace]
    by_cases hold : x ∈ a.children parent
    · simp [hold]
    · simp only [hold, if_false, false_or]
      split <;> omega

/-- Placeable nodes are relinked into a treelike document. -/
theorem treelike (h : Relinked a parent place nodes b) (hn : a.Placeable parent nodes)
    (ht : a.Treelike)
    (hperm : (place (a.children parent)).Perm (a.children parent ++ nodes)) : b.Treelike := by
  have hcount := h.count_children hn ht hperm
  apply ht.relink nodes parent
  · exact fun x _ => h.kind x
  · intro c p hp
    rw [h.parent] at hp
    split at hp
    · rename_i hc
      exact Or.inl ⟨hc, (Option.some.inj hp).symm⟩
    · rename_i hc
      exact Or.inr ⟨hc, hp⟩
  · intro c hc
    rw [h.kind, h.kind]
    exact ⟨hn.container, (hn.inner c hc).1, (hn.inner c hc).2, hn.free c hc⟩
  · intro p c hc
    rw [h.parent]
    by_cases hp : parent = p
    · subst hp
      have hpos : 0 < (b.children parent).count c := List.count_pos_iff.mpr hc
      rw [hcount] at hpos
      split
      · rfl
      · rename_i hcn
        have hzero : nodes.count c = 0 := List.count_eq_zero.mpr hcn
        apply ht.parent_of_mem parent c
        by_cases hold : c ∈ a.children parent
        · exact hold
        · simp [hold, hzero] at hpos
    · rw [h.children, if_neg hp] at hc
      have hcn : c ∉ nodes := fun hm => hn.not_listed ht hm p hc
      rw [if_neg hcn]
      exact ht.parent_of_mem p c hc
  · intro p
    by_cases hp : parent = p
    · subst hp
      rw [List.nodup_iff_count]
      intro c
      rw [hcount]
      split <;> omega
    · rw [h.children, if_neg hp]
      exact ht.nodup p

end Relinked

/-- Linking keeps the tree in order. -/
theorem treelike_link {doc : Document} {parent : Handle} {nodes : List Handle} (ht : doc.Treelike)
    (h : doc.Placeable parent nodes) {place : List Handle → List Handle}
    (hperm : (place (doc.children parent)).Perm (doc.children parent ++ nodes)) :
    (doc.link parent place nodes).Treelike := by
  obtain ⟨b, hb, hg⟩ := exists_relinked h place
  exact hg.treelike (hb.treelike h ht hperm)

end PageHost.Document
