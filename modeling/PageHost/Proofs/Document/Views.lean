import PageHost.Proofs.Document.Store
/-!
# What a document answers after a change

The tree is seen through three views: the content of a node, its parent and its
children. Each step that writes nodes is described by what the views answer
afterwards. Documents that answer alike differ at most in which nodes are live
and in the events listened for.
-/

namespace PageHost.Document

/-- The content of a node. -/
def content? (doc : Document) (h : Handle) : Option Content := (doc.node? h).map (·.content)

/-- The kind of a node is that of its content. -/
theorem kind?_eq (doc : Document) (h : Handle) : doc.kind? h = (doc.content? h).map (·.kind) := by
  simp [kind?, content?, Function.comp_def]

theorem tag?_eq (doc : Document) (h : Handle) :
    doc.tag? h = ((doc.content? h).bind (·.elementName?)).map (·.tag) := by
  unfold tag? elementName? content?
  cases doc.node? h <;> rfl

/-- The children of a node that does not exist are none. -/
theorem children_eq (doc : Document) (h : Handle) :
    doc.children h = ((doc.node? h).map (·.children)).getD [] := by
  unfold children
  cases doc.node? h <;> rfl

/-! ## Which nodes there are -/

/-- There is no content from the size on. -/
theorem content?_eq_none_iff (doc : Document) (h : Handle) :
    doc.content? h = none ↔ doc.size ≤ h := by
  rw [content?, Option.map_eq_none_iff, node?_eq_none_iff]

/-- The nodes that exist are those that have content. -/
theorem lt_size_iff (doc : Document) (h : Handle) :
    h < doc.size ↔ ∃ content, doc.content? h = some content := by
  rw [← Option.ne_none_iff_exists', ne_eq, content?_eq_none_iff]
  exact Nat.not_le.symm

/-- The contents tell how many nodes there are. -/
theorem size_eq_of_content? {a b : Document} (h : ∀ x, b.content? x = a.content? x) :
    b.size = a.size := by
  have heq : ∀ x, x < b.size ↔ x < a.size := fun x => by
    rw [lt_size_iff, lt_size_iff, h]
  have h1 := heq a.size
  have h2 := heq b.size
  omega

/-- A node is contained when its number is below the size. -/
theorem contains_iff (doc : Document) (h : Handle) : doc.contains h = true ↔ h < doc.size := by
  rw [contains, Option.isSome_iff_ne_none, ne_eq, node?_eq_none_iff]
  exact Nat.not_le

/-- A node that does not exist has no parent. -/
theorem parent?_of_size_le {doc : Document} {h : Handle} (hs : doc.size ≤ h) :
    doc.parent? h = none := by
  rw [parent?, (node?_eq_none_iff doc h).mpr hs]
  rfl

theorem children_of_size_le {doc : Document} {h : Handle} (hs : doc.size ≤ h) :
    doc.children h = [] := by
  rw [children, (node?_eq_none_iff doc h).mpr hs]

/-- A node that has a parent exists. -/
theorem lt_size_of_parent? {doc : Document} {h p : Handle} (hp : doc.parent? h = some p) :
    h < doc.size := by
  apply Nat.lt_of_not_le
  intro hs
  rw [parent?_of_size_le hs] at hp
  cases hp

/-- A node that has children exists. -/
theorem lt_size_of_mem_children {doc : Document} {p c : Handle} (hc : c ∈ doc.children p) :
    p < doc.size := by
  apply Nat.lt_of_not_le
  intro hs
  rw [children_of_size_le hs] at hc
  cases hc

theorem lt_size_of_kind? {doc : Document} {h : Handle} {kind : Kind} (hk : doc.kind? h = some kind) :
    h < doc.size := by
  rw [kind?_eq] at hk
  obtain ⟨content, hc, -⟩ := Option.map_eq_some_iff.mp hk
  exact (lt_size_iff doc h).mpr ⟨content, hc⟩

/-! ## Writing one node -/

theorem content?_push (doc : Document) (node : Node) (x : Handle) :
    (doc.push node).content? x = if x = doc.size then some node.content else doc.content? x := by
  rw [content?, node?_push]
  split <;> rfl

theorem parent?_push (doc : Document) (node : Node) (x : Handle) :
    (doc.push node).parent? x = if x = doc.size then node.parent else doc.parent? x := by
  rw [parent?, node?_push]
  split <;> rfl

theorem children_push (doc : Document) (node : Node) (x : Handle) :
    (doc.push node).children x = if x = doc.size then node.children else doc.children x := by
  rw [children_eq, node?_push]
  split
  · rfl
  · rw [← children_eq]

/-- A fresh node without children changes no list. -/
theorem children_push_nil (doc : Document) (content : Content) (parent : Option Handle)
    (live : Bool) (x : Handle) :
    (doc.push ⟨content, parent, [], live⟩).children x = doc.children x := by
  rw [children_push]
  split
  · rename_i hx
    rw [hx, children_of_size_le (Nat.le_refl _)]
  · rfl

/-- A change of places leaves the contents as they are. -/
@[simp] theorem content?_update (doc : Document) (h x : Handle) (f : Place → Place) :
    (doc.update h f).content? x = doc.content? x := by
  rw [content?, node?_update, content?]
  split
  · rw [Option.map_map]
    rfl
  · rfl

/-- A change of another field of a place leaves the parents as they are. -/
theorem parent?_update (doc : Document) (h x : Handle) {f : Place → Place}
    (hf : ∀ place, (f place).parent = place.parent) :
    (doc.update h f).parent? x = doc.parent? x := by
  rw [parent?, node?_update, parent?]
  split
  · cases doc.node? x with
    | none => rfl
    | some node => exact hf node.place
  · rfl

theorem children_update (doc : Document) (h x : Handle) {f : Place → Place}
    (hf : ∀ place, (f place).children = place.children) :
    (doc.update h f).children x = doc.children x := by
  rw [children_eq, node?_update, children_eq]
  split
  · rw [Option.map_map]
    exact congrArg (fun g => (Option.map g _).getD []) (funext fun node => hf node.place)
  · rfl

/-! ### Giving a node other content -/

/-- New content of the same kind is found at its node only. -/
theorem content?_setContent {doc : Document} {h : Handle} {content : Content}
    (hk : doc.kind? h = some content.kind) (x : Handle) :
    (doc.setContent h content).content? x =
      if h = x then some content else doc.content? x := by
  rw [content?, node?_setContent hk, content?]
  split
  · rename_i hx
    subst hx
    obtain ⟨node, hn, -⟩ := Option.map_eq_some_iff.mp hk
    rw [hn]
    rfl
  · rfl

@[simp] theorem parent?_setContent (doc : Document) (h x : Handle) (content : Content) :
    (doc.setContent h content).parent? x = doc.parent? x :=
  parent?_of_place?_eq (place?_setContent doc h x content)

@[simp] theorem children_setContent (doc : Document) (h x : Handle) (content : Content) :
    (doc.setContent h content).children x = doc.children x :=
  children_of_place?_eq (place?_setContent doc h x content)

@[simp] theorem live_setContent (doc : Document) (h x : Handle) (content : Content) :
    (doc.setContent h content).live x = doc.live x :=
  live_of_place?_eq (place?_setContent doc h x content)

/-! ### Giving a node a parent or children -/

/-- Gives a node a parent, or none. -/
def setParent (doc : Document) (h : Handle) (parent : Option Handle) : Document :=
  doc.update h fun place => { place with parent := parent }

/-- Rewrites the child list of a node. -/
def mapChildren (doc : Document) (h : Handle) (f : List Handle → List Handle) : Document :=
  doc.update h fun place => { place with children := f place.children }

@[simp] theorem size_setParent (doc : Document) (h : Handle) (parent : Option Handle) :
    (doc.setParent h parent).size = doc.size := size_update _ _ _

@[simp] theorem size_mapChildren (doc : Document) (h : Handle) (f : List Handle → List Handle) :
    (doc.mapChildren h f).size = doc.size := size_update _ _ _

@[simp] theorem content?_setParent (doc : Document) (h x : Handle) (parent : Option Handle) :
    (doc.setParent h parent).content? x = doc.content? x := content?_update _ _ _ _

@[simp] theorem content?_mapChildren (doc : Document) (h x : Handle)
    (f : List Handle → List Handle) : (doc.mapChildren h f).content? x = doc.content? x :=
  content?_update _ _ _ _

@[simp] theorem children_setParent (doc : Document) (h x : Handle) (parent : Option Handle) :
    (doc.setParent h parent).children x = doc.children x := children_update _ _ _ fun _ => rfl

@[simp] theorem parent?_mapChildren (doc : Document) (h x : Handle)
    (f : List Handle → List Handle) : (doc.mapChildren h f).parent? x = doc.parent? x :=
  parent?_update _ _ _ fun _ => rfl

/-- A parent that is set is found at its node only. -/
theorem parent?_setParent {doc : Document} {h : Handle} (hs : h < doc.size) (x : Handle)
    (parent : Option Handle) :
    (doc.setParent h parent).parent? x = if h = x then parent else doc.parent? x := by
  rw [parent?, setParent, node?_update, parent?]
  split
  · rename_i he
    subst he
    cases hn : doc.node? h with
    | none => exact absurd hs (Nat.not_lt.mpr ((node?_eq_none_iff doc h).mp hn))
    | some node => rfl
  · rfl

/-- A child list is rewritten at its node only. -/
theorem children_mapChildren {doc : Document} {h : Handle} (hs : h < doc.size) (x : Handle)
    (f : List Handle → List Handle) :
    (doc.mapChildren h f).children x = if h = x then f (doc.children x) else doc.children x := by
  rw [children_eq, mapChildren, node?_update, children_eq]
  split
  · rename_i he
    subst he
    cases hn : doc.node? h with
    | none => exact absurd hs (Nat.not_lt.mpr ((node?_eq_none_iff doc h).mp hn))
    | some node => rfl
  · rfl

/-- Dropping a child filters the child list. -/
theorem dropChild_eq (doc : Document) (p c : Handle) :
    doc.dropChild p c = doc.mapChildren p fun list => list.filter fun x => !decide (x = c) := rfl

/-- A child is off the list of a node, missing or not. -/
theorem children_dropChild (doc : Document) (p c x : Handle) :
    (doc.dropChild p c).children x =
      if p = x then (doc.children x).filter (fun y => !decide (y = c)) else doc.children x := by
  rw [dropChild_eq]
  by_cases hs : p < doc.size
  · exact children_mapChildren hs x _
  · have hle : doc.size ≤ p := Nat.le_of_not_lt hs
    split
    · rename_i he
      subst he
      rw [children_of_size_le (by simpa using hle), children_of_size_le hle]
      rfl
    · rename_i he
      rw [children_eq, mapChildren, node?_update, if_neg he, ← children_eq]

@[simp] theorem content?_dropChild (doc : Document) (p c x : Handle) :
    (doc.dropChild p c).content? x = doc.content? x := content?_mapChildren _ _ _ _

@[simp] theorem parent?_dropChild (doc : Document) (p c x : Handle) :
    (doc.dropChild p c).parent? x = doc.parent? x := parent?_mapChildren _ _ _ _

@[simp] theorem size_dropChild (doc : Document) (p c : Handle) :
    (doc.dropChild p c).size = doc.size := size_mapChildren _ _ _

/-! ## Documents that answer alike -/

/-- Every node has the same content, parent and children in both. -/
structure Alike (a b : Document) : Prop where
  content : ∀ h, b.content? h = a.content? h
  parent : ∀ h, b.parent? h = a.parent? h
  children : ∀ h, b.children h = a.children h

theorem Alike.rfl {doc : Document} : doc.Alike doc := ⟨fun _ => Eq.refl _, fun _ => Eq.refl _, fun _ => Eq.refl _⟩

theorem Alike.symm {a b : Document} (h : a.Alike b) : b.Alike a :=
  ⟨fun x => (h.content x).symm, fun x => (h.parent x).symm, fun x => (h.children x).symm⟩

theorem Alike.trans {a b c : Document} (h : a.Alike b) (h' : b.Alike c) : a.Alike c :=
  ⟨fun x => (h'.content x).trans (h.content x), fun x => (h'.parent x).trans (h.parent x),
    fun x => (h'.children x).trans (h.children x)⟩

/-- Documents with the same links have the same kinds. -/
theorem Alike.kind {a b : Document} (h : a.Alike b) (x : Handle) : b.kind? x = a.kind? x := by
  rw [kind?_eq, kind?_eq, h.content]

theorem Alike.size {a b : Document} (h : a.Alike b) : b.size = a.size :=
  size_eq_of_content? h.content

/-- A write that keeps content, parent and children shows nowhere. -/
theorem alike_update (doc : Document) (h : Handle) {f : Place → Place}
    (hp : ∀ place, (f place).parent = place.parent)
    (hl : ∀ place, (f place).children = place.children) : doc.Alike (doc.update h f) :=
  ⟨fun x => content?_update doc h x f, fun x => parent?_update doc h x hp,
    fun x => children_update doc h x hl⟩

/-- Marks change no link. -/
theorem alike_markAll (doc : Document) (live : Bool) (nodes : List Handle) :
    doc.Alike (nodes.foldl (fun doc d => doc.update d fun place => { place with live := live }) doc) := by
  induction nodes generalizing doc with
  | nil => exact Alike.rfl
  | cons d rest ih =>
    have hd : doc.Alike (doc.update d fun place => { place with live := live }) :=
      alike_update doc d (fun _ => rfl) fun _ => rfl
    exact hd.trans (ih _)

/-- Whether nodes are live does not show in the tree. -/
theorem alike_markLive (doc : Document) (h : Handle) (live : Bool) :
    doc.Alike (doc.markLive h live) := alike_markAll doc live _

/-- The same nodes give the same answers, whatever is listened for. -/
theorem alike_of_nodes {a b : Document} (h : b.nodes = a.nodes) : a.Alike b := by
  have hn : ∀ x, b.node? x = a.node? x := fun x => by rw [node?, h, node?]
  exact ⟨fun x => by rw [content?, hn, content?], fun x => by rw [parent?, hn, parent?],
    fun x => by rw [Document.children, hn, Document.children]⟩

end PageHost.Document
