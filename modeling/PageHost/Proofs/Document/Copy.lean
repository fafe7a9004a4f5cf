import PageHost.Proofs.Document.Growth
/-!
# Copies

Planting a tree makes a node for each of its contents in one walk, where a copy
takes two. It makes fresh nodes only. `Planted` says what it leaves: the old
nodes as they were, a treelike document, and among the fresh nodes only the tops
that no fresh node lists. A tree that is read off a treelike document has
children under containers only and no document or fragment below its top, and so
it can be planted again.
-/

namespace PageHost

namespace Tree

/-- Whether a tree may stand below another node. -/
def Inner (t : Tree) : Prop := t.content.kind ≠ .document ∧ t.content.kind ≠ .fragment

mutual

/-- Only containers have children, and all below the top may stand there. -/
def WellKinded : Tree → Prop
  | .node content children =>
    (children ≠ [] → content.kind.holdsChildren = true) ∧ WellKindedBelow children

/-- All of the trees may stand below another node, and are well kinded. -/
def WellKindedBelow : List Tree → Prop
  | [] => True
  | t :: rest => t.Inner ∧ WellKinded t ∧ WellKindedBelow rest

end

/-- Trees may stand below a node when each of them may and is well kinded. -/
theorem wellKindedBelow_iff (trees : List Tree) :
    WellKindedBelow trees ↔ ∀ t ∈ trees, t.Inner ∧ t.WellKinded := by
  induction trees with
  | nil => simp [WellKindedBelow]
  | cons t rest ih => simp [WellKindedBelow, ih, and_assoc]

end Tree

namespace Document

/-! ## Reading a tree -/

/-- The content at the top of a tree is that of its node. -/
theorem content_of_treeWithin {doc : Document} {depth : Nat} {h : Handle} {t : Tree}
    (ht : doc.treeWithin depth h = some t) : doc.content? h = some t.content := by
  cases depth with
  | zero => cases ht
  | succ depth =>
    rw [treeWithin] at ht
    rw [content?]
    cases hn : doc.node? h with
    | none =>
      rw [hn] at ht
      cases ht
    | some node =>
      rw [hn] at ht
      cases ht
      rfl

/-- A tree that is read off a treelike document can be planted. -/
theorem wellKinded_treeWithin {doc : Document} (hd : doc.Treelike) (depth : Nat) (h : Handle)
    (t : Tree) (ht : doc.treeWithin depth h = some t) : t.WellKinded := by
  induction depth generalizing h t with
  | zero => cases ht
  | succ depth ih =>
    rw [treeWithin] at ht
    cases hn : doc.node? h with
    | none =>
      rw [hn] at ht
      cases ht
    | some node =>
      rw [hn] at ht
      cases ht
      have hchildren : doc.children h = node.children := by rw [children, hn]
      refine ⟨?_, (Tree.wellKindedBelow_iff _).mpr ?_⟩
      · intro hne
        obtain ⟨t, hm⟩ := List.exists_mem_of_ne_nil _ hne
        obtain ⟨c, hc, -⟩ := List.mem_filterMap.mp hm
        rw [← hchildren] at hc
        obtain ⟨kind, hk, hholds⟩ := hd.container_of_mem hc
        rw [kind?, hn] at hk
        cases hk
        exact hholds
      · intro t hm
        obtain ⟨c, hc, htc⟩ := List.mem_filterMap.mp hm
        rw [← hchildren] at hc
        have hinner := hd.inner c h (hd.parent_of_mem h c hc)
        rw [kind?_eq, content_of_treeWithin htc] at hinner
        exact ⟨⟨by simpa using hinner.1, by simpa using hinner.2⟩, ih c t htc⟩

/-! ## Planting -/

mutual

/-- Makes fresh nodes for a tree, a node before its children, the children in
order, none of them live. -/
def plant (doc : Document) (parent : Option Handle) : Tree → Handle × Document
  | .node content children =>
    let top := doc.size
    let (below, doc) := (doc.push ⟨content, parent, [], false⟩).plantAll top children
    (top, doc.update top fun place => { place with children := below })

/-- Makes fresh nodes for trees that will be children of one node. -/
def plantAll (doc : Document) (parent : Handle) : List Tree → List Handle × Document
  | [] => ([], doc)
  | t :: rest =>
    let (h, doc) := doc.plant (some parent) t
    let (hs, doc) := doc.plantAll parent rest
    (h :: hs, doc)

end

/-- `b` came from `a` by planting trees with these tops under one parent or none. -/
structure Planted (a : Document) (parent : Option Handle) (tops : List Handle) (b : Document) :
    Prop where
  /-- The old nodes are as they were. -/
  frame : ∀ x, x < a.size → b.node? x = a.node? x
  size_le : a.size ≤ b.size
  treelike : b.Treelike
  nodup : tops.Nodup
  /-- The tops are fresh and have the parent. -/
  fresh : ∀ c ∈ tops, a.size ≤ c ∧ c < b.size ∧ b.parent? c = parent
  /-- Every other fresh node is listed by its parent. -/
  listed : ∀ x, a.size ≤ x → x < b.size → x ∉ tops → ∃ p, b.parent? x = some p ∧ x ∈ b.children p

/-- Nodes that are the same have the same parent. -/
theorem parent?_of_node?_eq {a b : Document} {x : Handle} (h : b.node? x = a.node? x) :
    b.parent? x = a.parent? x := by rw [parent?, h, parent?]

theorem children_of_node?_eq {a b : Document} {x : Handle} (h : b.node? x = a.node? x) :
    b.children x = a.children x := by rw [children, h, children]

theorem kind?_of_node?_eq {a b : Document} {x : Handle} (h : b.node? x = a.node? x) :
    b.kind? x = a.kind? x := by rw [kind?, h, kind?]

/-- What is planted on top of a planted document is planted with it. -/
theorem Planted.trans {a b c : Document} {parent : Option Handle} {tops more : List Handle}
    (h : Planted a parent tops b) (h' : Planted b parent more c) :
    Planted a parent (tops ++ more) c where
  frame x hx := (h'.frame x (Nat.lt_of_lt_of_le hx h.size_le)).trans (h.frame x hx)
  size_le := Nat.le_trans h.size_le h'.size_le
  treelike := h'.treelike
  nodup := by
    rw [List.nodup_append]
    refine ⟨h.nodup, h'.nodup, ?_⟩
    rintro x hx y hy rfl
    exact absurd (h'.fresh x hy).1 (Nat.not_le.mpr (h.fresh x hx).2.1)
  fresh x hx := by
    rcases List.mem_append.mp hx with hx | hx
    · obtain ⟨hle, hlt, hp⟩ := h.fresh x hx
      refine ⟨hle, Nat.lt_of_lt_of_le hlt h'.size_le, ?_⟩
      rw [parent?_of_node?_eq (h'.frame x hlt), hp]
    · obtain ⟨hle, hlt, hp⟩ := h'.fresh x hx
      exact ⟨Nat.le_trans h.size_le hle, hlt, hp⟩
  listed x hle hlt hx := by
    rw [List.mem_append, not_or] at hx
    by_cases hb : x < b.size
    · obtain ⟨p, hp, hm⟩ := h.listed x hle hb hx.1
      refine ⟨p, by rw [parent?_of_node?_eq (h'.frame x hb), hp], ?_⟩
      rwa [children_of_node?_eq (h'.frame p (lt_size_of_mem_children hm))]
    · exact h'.listed x (Nat.le_of_not_lt hb) hlt hx.2

/-- A fresh node that gets the tops planted under it for its list is a planted top. -/
theorem planted_of_below {doc made : Document} {content : Content} {parent : Option Handle}
    {below : List Handle}
    (h : Planted (doc.push ⟨content, parent, [], false⟩) (some doc.size) below made) :
    Planted doc parent [doc.size] (made.mapChildren doc.size fun _ => below) := by
  have hsize : doc.size < (doc.push ⟨content, parent, [], false⟩).size := by
    rw [size_push]
    exact Nat.lt_succ_self _
  have htop : doc.size < made.size := Nat.lt_of_lt_of_le hsize h.size_le
  have hnode : made.node? doc.size = some ⟨content, parent, [], false⟩ := by
    rw [h.frame doc.size hsize, node?_push, if_pos rfl]
  refine ⟨?_, ?_, ?_, List.nodup_cons.mpr ⟨List.not_mem_nil, List.nodup_nil⟩, ?_, ?_⟩
  · intro x hx
    have hne : x ≠ doc.size := Nat.ne_of_lt hx
    rw [mapChildren, node?_update, if_neg hne.symm, h.frame x (Nat.lt_trans hx hsize), node?_push,
      if_neg hne]
  · rw [size_mapChildren]
    exact Nat.le_of_lt htop
  · exact treelike_mapChildren h.treelike h.nodup fun c hc => (h.fresh c hc).2.2
  · intro c hc
    rw [List.mem_singleton.mp hc, size_mapChildren, parent?_mapChildren, parent?, hnode]
    exact ⟨Nat.le_refl _, htop, rfl⟩
  · intro x hle hlt hx
    rw [List.mem_singleton] at hx
    rw [size_mapChildren] at hlt
    rw [parent?_mapChildren]
    by_cases hb : x ∈ below
    · refine ⟨doc.size, (h.fresh x hb).2.2, ?_⟩
      rw [children_mapChildren htop, if_pos rfl]
      exact hb
    · have hle' : (doc.push ⟨content, parent, [], false⟩).size ≤ x := by
        rw [size_push]
        exact Nat.lt_of_le_of_ne hle (Ne.symm hx)
      obtain ⟨p, hp, hm⟩ := h.listed x hle' hlt hb
      refine ⟨p, hp, ?_⟩
      have hne : doc.size ≠ p := by
        rintro rfl
        rw [Document.children, hnode] at hm
        cases hm
      rw [children_mapChildren htop, if_neg hne]
      exact hm

mutual

/-- Planting one tree. -/
theorem planted_plant {doc : Document} (hd : doc.Treelike) (parent : Option Handle) :
    (t : Tree) → t.WellKinded →
    (∀ p, parent = some p →
      (∃ kind, doc.kind? p = some kind ∧ kind.holdsChildren) ∧ t.Inner) →
    Planted doc parent [(doc.plant parent t).1] (doc.plant parent t).2
  | .node content children, hw, hp => by
    have hpush := treelike_push hd false hp
    have hkind : (doc.push ⟨content, parent, [], false⟩).kind? doc.size = some content.kind := by
      rw [kind?, node?_push, if_pos rfl]
      rfl
    have hbelow := planted_plantAll hpush doc.size children hw.2
      fun hne => ⟨content.kind, hkind, hw.1 hne⟩
    exact planted_of_below hbelow

/-- Planting trees under one parent. -/
theorem planted_plantAll {doc : Document} (hd : doc.Treelike) (top : Handle) :
    (trees : List Tree) → Tree.WellKindedBelow trees →
    (trees ≠ [] → ∃ kind, doc.kind? top = some kind ∧ kind.holdsChildren) →
    Planted doc (some top) (doc.plantAll top trees).1 (doc.plantAll top trees).2
  | [], _, _ =>
    ⟨fun _ _ => rfl, Nat.le_refl _, hd, List.nodup_nil, by simp [plantAll],
      fun _ hle hlt _ => absurd hlt (Nat.not_lt.mpr hle)⟩
  | t :: rest, hw, hk => by
    obtain ⟨hinner, hwt, hwr⟩ := hw
    obtain ⟨kind, hkind, hholds⟩ := hk (List.cons_ne_nil t rest)
    have hfirst := planted_plant hd (some top) t hwt fun p hp => by
      cases hp
      exact ⟨⟨kind, hkind, hholds⟩, hinner⟩
    have hkind' : (doc.plant (some top) t).2.kind? top = some kind := by
      rw [kind?_of_node?_eq (hfirst.frame top (lt_size_of_kind? hkind)), hkind]
    have hrest := planted_plantAll hfirst.treelike top rest hwr fun _ => ⟨kind, hkind', hholds⟩
    exact hfirst.trans hrest

end

end Document

end PageHost
