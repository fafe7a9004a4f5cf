import PageHost.Proofs.Document.Descent
/-!
# Regions that are left alone

A region is a set of nodes that no node outside lists. An operation whose
arguments are clear of a region, being neither in it nor children of its nodes,
leaves every node of the region as it is, brings no node into it, and leaves
clear of it whatever was clear of it before. This is said of each step that
writes nodes first, and then of the operations that are made of them.
-/

namespace PageHost.Document

/-- All nodes of the region exist, and nobody outside the region lists one of them. -/
structure Closed (region : Handle → Prop) (doc : Document) : Prop where
  exist : ∀ x, region x → x < doc.size
  lister : ∀ p c, c ∈ doc.children p → region c → region p

/-- The node is neither in the region nor has its parent there. -/
def Clear (region : Handle → Prop) (doc : Document) (x : Handle) : Prop :=
  ¬ region x ∧ ∀ p, doc.parent? x = some p → ¬ region p

/-- `b` came from `a`, and the region was left alone. -/
structure Spares (region : Handle → Prop) (a b : Document) : Prop where
  closed : Closed region b
  same : ∀ x, region x → b.node? x = a.node? x
  /-- No node gets a parent in the region. -/
  parent : ∀ x p, b.parent? x = some p → region p → a.parent? x = some p

variable {region : Handle → Prop} {a b c : Document}

/-- What lies below a node outside the region is outside the region. -/
theorem Closed.of_below (h : Closed region a) {top x : Handle} (hb : a.Below top x)
    (hx : region x) : region top := by
  induction hb with
  | here => exact hx
  | child _ hc ih => exact ih (h.lister _ _ hc hx)

/-- The children of a node outside the region are clear of it. -/
theorem Closed.clear_child (h : Closed region a) (ht : a.Treelike) {p x : Handle}
    (hp : ¬ region p) (hx : x ∈ a.children p) : Clear region a x := by
  refine ⟨fun hr => hp (h.lister p x hx hr), fun q hq => ?_⟩
  rw [ht.parent_of_mem p x hx] at hq
  cases hq
  exact hp

namespace Spares

/-- A closed region is spared where nothing changes. -/
theorem refl (h : Closed region a) : Spares region a a := ⟨h, fun _ _ => rfl, fun _ _ hp _ => hp⟩

/-- A region that two changes spare one after the other is spared by both together. -/
theorem trans (h : Spares region a b) (h' : Spares region b c) : Spares region a c where
  closed := h'.closed
  same x hx := (h'.same x hx).trans (h.same x hx)
  parent x p hp hr := h.parent x p (h'.parent x p hp hr) hr

/-- What was clear of the region is clear of it. -/
theorem clear (h : Spares region a b) {x : Handle} (hx : Clear region a x) : Clear region b x :=
  ⟨hx.1, fun p hp hr => hx.2 p (h.parent x p hp hr) hr⟩

end Spares

/-! ## Writing nodes -/

/-- What is inside a region differs from what is outside. -/
theorem ne_of_region {x y : Handle} (hx : ¬ region x) (hy : region y) : y ≠ x := by
  rintro rfl
  exact hx hy

/-- An update of one node leaves the others as they are. -/
theorem node?_update_of_ne (doc : Document) {h x : Handle} (hx : x ≠ h) (f : Place → Place) :
    (doc.update h f).node? x = doc.node? x := by
  rw [node?_update, if_neg (Ne.symm hx)]

/-- A node outside the region may be rewritten where it keeps its links. -/
theorem spares_update (h : Closed region a) {x : Handle} (hx : ¬ region x) {f : Place → Place}
    (hp : ∀ place, (f place).parent = place.parent)
    (hc : ∀ place, (f place).children = place.children) : Spares region a (a.update x f) where
  closed :=
    { exist := fun y hy => by
        rw [size_update]
        exact h.exist y hy
      lister := fun p c hm hr => by
        rw [children_update a x p hc] at hm
        exact h.lister p c hm hr }
  same y hy := a.node?_update_of_ne (ne_of_region hx hy) f
  parent y p hq _ := by rwa [parent?_update a x y hp] at hq

/-- A node outside the region may get other content. -/
theorem spares_setContent (h : Closed region a) {x : Handle} (hx : ¬ region x)
    (content : Content) : Spares region a (a.setContent x content) where
  closed :=
    { exist := fun y hy => by
        rw [size_setContent]
        exact h.exist y hy
      lister := fun p c hm hr => by
        rw [children_setContent] at hm
        exact h.lister p c hm hr }
  same y hy := a.node?_setContent_of_ne (ne_of_region hx hy) content
  parent y p hq _ := by rwa [parent?_setContent] at hq

/-- A node outside the region may lose its parent or get one outside the region. -/
theorem spares_setParent (h : Closed region a) {x : Handle} (hx : ¬ region x)
    {parent : Option Handle} (hp : ∀ p, parent = some p → ¬ region p) :
    Spares region a (a.setParent x parent) where
  closed :=
    { exist := fun y hy => by
        rw [size_setParent]
        exact h.exist y hy
      lister := fun p c hm hr => by
        rw [children_setParent] at hm
        exact h.lister p c hm hr }
  same y hy := a.node?_update_of_ne (ne_of_region hx hy) _
  parent y p hq hr := by
    by_cases hy : y = x
    · subst hy
      have hs : y < a.size := by
        have hlt := lt_size_of_parent? hq
        rwa [size_setParent] at hlt
      rw [parent?_setParent hs, if_pos rfl] at hq
      exact absurd hr (hp p hq)
    · rw [parent?, setParent, a.node?_update_of_ne hy] at hq
      exact hq

/-- A child after a child list is rewritten is on the new list or was a child before. -/
theorem mem_children_mapChildren {doc : Document} {p q x : Handle} {f : List Handle → List Handle}
    (hx : x ∈ (doc.mapChildren p f).children q) :
    (q = p ∧ x ∈ f (doc.children p)) ∨ x ∈ doc.children q := by
  by_cases hq : q = p
  · subst hq
    have hs : q < doc.size := by
      have hlt := lt_size_of_mem_children hx
      rwa [size_mapChildren] at hlt
    rw [children_mapChildren hs, if_pos rfl] at hx
    exact Or.inl ⟨rfl, hx⟩
  · rw [children_eq, mapChildren, doc.node?_update_of_ne hq, ← children_eq] at hx
    exact Or.inr hx

/-- A node outside the region may get another list of nodes outside the region. -/
theorem spares_mapChildren (h : Closed region a) {p : Handle} (hp : ¬ region p)
    {f : List Handle → List Handle} (hf : ∀ x ∈ f (a.children p), ¬ region x) :
    Spares region a (a.mapChildren p f) where
  closed :=
    { exist := fun y hy => by
        rw [size_mapChildren]
        exact h.exist y hy
      lister := fun q x hm hr => by
        rcases mem_children_mapChildren hm with ⟨-, hx⟩ | hx
        · exact absurd hr (hf x hx)
        · exact h.lister q x hx hr }
  same y hy := a.node?_update_of_ne (ne_of_region hp hy) _
  parent y q hq _ := by rwa [parent?_mapChildren] at hq

theorem spares_dropChild (h : Closed region a) {p : Handle} (hp : ¬ region p) (x : Handle) :
    Spares region a (a.dropChild p x) := by
  rw [dropChild_eq]
  apply spares_mapChildren h hp
  intro y hy hr
  exact hp (h.lister p y (List.mem_filter.mp hy).1 hr)

/-- A fresh node may have a parent outside the region or none. -/
theorem spares_push (h : Closed region a) (content : Content) {parent : Option Handle}
    (live : Bool) (hp : ∀ p, parent = some p → ¬ region p) :
    Spares region a (a.push ⟨content, parent, [], live⟩) where
  closed :=
    { exist := fun y hy => by
        have hlt : y < a.size := h.exist y hy
        rw [size_push]
        exact Nat.lt_succ_of_lt hlt
      lister := fun p x hm hr => by
        rw [children_push_nil] at hm
        exact h.lister p x hm hr }
  same y hy := by
    have hlt := h.exist y hy
    rw [node?_push, if_neg (Nat.ne_of_lt hlt)]
  parent y p hq hr := by
    rw [parent?_push] at hq
    split at hq
    · exact absurd hr (hp p hq)
    · exact hq

/-- A fresh node is clear of the region. -/
theorem clear_create (h : Closed region a) (content : Content) :
    Clear region (a.create content).2 (a.create content).1 := by
  refine ⟨fun hr => Nat.lt_irrefl _ (h.exist _ hr), fun p hp => ?_⟩
  replace hp : (a.push ⟨content, none, [], false⟩).parent? a.size = some p := hp
  rw [parent?_push, if_pos rfl] at hp
  cases hp

theorem spares_createBelow (h : Closed region a) {p : Handle} (hp : ¬ region p)
    (content : Content) : Spares region a (a.createBelow p content).2 := by
  have hpush : Spares region a (a.push ⟨content, some p, [], true⟩) := by
    apply spares_push h content true
    intro q hq
    cases hq
    exact hp
  rw [createBelow_snd]
  refine hpush.trans (spares_mapChildren hpush.closed hp ?_)
  intro x hx hr
  rcases List.mem_append.mp hx with hx | hx
  · exact hp (hpush.closed.lister p x hx hr)
  · rw [List.mem_singleton] at hx
    subst hx
    exact Nat.lt_irrefl _ (h.exist _ hr)

/-! ## The steps of linking and unlinking -/

/-- What the walk down lists lies below its stack. -/
theorem below_of_mem_visit {doc : Document} {bound : Nat} {stack list : List Handle}
    (h : doc.visit bound stack = some list) {n : Handle} (hn : n ∈ list) :
    ∃ s ∈ stack, doc.Below s n := by
  induction bound generalizing stack list with
  | zero =>
    cases stack with
    | nil =>
      cases h
      cases hn
    | cons s rest => cases h
  | succ bound ih =>
    cases stack with
    | nil =>
      cases h
      cases hn
    | cons s rest =>
      rw [visit] at h
      cases hs : doc.node? s with
      | none =>
        rw [hs] at h
        obtain ⟨t, ht, hb⟩ := ih h hn
        exact ⟨t, List.mem_cons_of_mem s ht, hb⟩
      | some node =>
        rw [hs] at h
        obtain ⟨later, hl, rfl⟩ := Option.map_eq_some_iff.mp h
        rcases List.mem_cons.mp hn with rfl | hn
        · exact ⟨n, List.mem_cons_self, .here⟩
        · obtain ⟨t, ht, hb⟩ := ih hl hn
          rcases List.mem_append.mp ht with ht | ht
          · have hc : t ∈ doc.children s := by
              rw [children, hs]
              exact ht
            exact ⟨s, List.mem_cons_self, Below.trans (.child .here hc) hb⟩
          · exact ⟨t, List.mem_cons_of_mem s ht, hb⟩

/-- Descendants are below their top. -/
theorem below_of_mem_descendants {doc : Document} {top n : Handle}
    (h : n ∈ doc.descendants top) : doc.Below top n := by
  unfold descendants at h
  cases hv : doc.visit (doc.size + 1) [top] with
  | none =>
    rw [hv] at h
    cases h
  | some list =>
    rw [hv] at h
    obtain ⟨s, hs, hb⟩ := below_of_mem_visit hv h
    rw [List.mem_singleton] at hs
    rwa [hs] at hb

/-- The walk down from a node outside the region stays outside. -/
theorem Closed.not_mem_descendants (h : Closed region a) {top x : Handle} (ht : ¬ region top)
    (hx : x ∈ a.descendants top) : ¬ region x :=
  fun hr => ht (h.of_below (below_of_mem_descendants hx) hr)

/-- A fold of steps that each spare the region spares it. -/
theorem spares_foldl {α : Type} {f : Document → α → Document} {list : List α}
    (hf : ∀ doc, Spares region a doc → ∀ x ∈ list, Spares region doc (f doc x))
    (h : Spares region a b) : Spares region a (list.foldl f b) := by
  induction list generalizing b with
  | nil => exact h
  | cons x rest ih =>
    have hstep : Spares region b (f b x) := hf b h x List.mem_cons_self
    exact ih (fun doc hd y hy => hf doc hd y (List.mem_cons_of_mem x hy)) (h.trans hstep)

/-- Marking nodes outside the region spares it. -/
theorem spares_markLive (h : Closed region a) {x : Handle} (hx : ¬ region x) (live : Bool) :
    Spares region a (a.markLive x live) := by
  unfold markLive
  apply spares_foldl _ (.refl h)
  intro doc hd y hy
  have hout : ¬ region y := h.not_mem_descendants hx hy
  exact spares_update hd.closed hout (fun _ => rfl) fun _ => rfl

/-- Taking a clear node out spares the region. -/
theorem spares_unlink (h : Closed region a) {x : Handle} (hx : Clear region a x) :
    Spares region a (a.unlink x) := by
  have hcut : Spares region a (a.cut x) := by
    unfold cut
    cases hp : a.parent? x with
    | none => exact .refl h
    | some p =>
      have hfree : Spares region a (a.setParent x none) := spares_setParent h hx.1 nofun
      exact hfree.trans (spares_dropChild hfree.closed (hx.2 p hp) x)
  exact hcut.trans (spares_markLive hcut.closed hx.1 false)

/-- Filling a control outside spares the region: what is made for it is fresh. -/
theorem spares_fillControl (h : Closed region a) {x : Handle} (hx : ¬ region x) :
    Spares region a (a.fillControl x) := by
  unfold fillControl
  split
  · split
    · split
      · split
        · exact .refl h
        · exact spares_createBelow h hx _
      · split
        · have hb := spares_createBelow h hx
            (.element ⟨"button", none⟩ [ownAttribute "type" "button", ownAttribute "tabindex" "-1"])
          have hl := hb.trans (spares_createBelow hb.closed hx (.element ⟨"label", none⟩ []))
          have hbutton : ¬ region a.size := fun hr => Nat.lt_irrefl _ (h.exist _ hr)
          have hlabel : ¬ region (a.createBelow x (.element ⟨"button", none⟩
              [ownAttribute "type" "button", ownAttribute "tabindex" "-1"])).2.size :=
            fun hr => Nat.lt_irrefl _ (hb.closed.exist _ hr)
          have ht := hl.trans (spares_createBelow hl.closed hlabel (.text "No File Selected"))
          exact ht.trans (spares_createBelow ht.closed hbutton (.text "Browse"))
        · exact .refl h
    · exact .refl h
  · exact .refl h

theorem spares_enter (h : Closed region a) {x : Handle} (hx : ¬ region x) :
    Spares region a (a.enter x) := by
  unfold enter
  apply spares_foldl _ (spares_markLive h hx true)
  intro doc hd y hy
  exact spares_fillControl hd.closed (h.not_mem_descendants hx hy)

/-- The adoption of a clear node by a parent outside spares the region. -/
theorem spares_adopt (h : Closed region a) {parent x : Handle} (hp : ¬ region parent)
    (hx : Clear region a x) : Spares region a (adopt parent a x) := by
  have hmoved : Spares region a (a.setParent x (some parent)) := by
    apply spares_setParent h hx.1
    intro q hq
    cases hq
    exact hp
  have hentered : Spares region a
      (if a.live parent ≠ a.live x then (a.setParent x (some parent)).enter x
        else a.setParent x (some parent)) := by
    split
    · exact hmoved.trans (spares_enter hmoved.closed hx.1)
    · exact hmoved
  unfold adopt
  cases hold : a.parent? x with
  | none => exact hentered
  | some q => exact hentered.trans (spares_dropChild hentered.closed (hx.2 q hold) x)

/-- Nodes that are clear of the region may be linked under a node outside. -/
theorem spares_link (h : Closed region a) {parent : Handle} (hp : ¬ region parent)
    {nodes : List Handle} (hn : ∀ x ∈ nodes, Clear region a x) {place : List Handle → List Handle}
    (hplace : ∀ x ∈ place (a.children parent), x ∈ a.children parent ∨ x ∈ nodes) :
    Spares region a (a.link parent place nodes) := by
  have hlisted : Spares region a (a.mapChildren parent place) := by
    apply spares_mapChildren h hp
    intro x hx hr
    rcases hplace x hx with hx | hx
    · exact hp (h.lister parent x hx hr)
    · exact (hn x hx).1 hr
  unfold link
  apply spares_foldl _ hlisted
  intro doc hd x hx
  exact spares_adopt hd.closed hp (hd.clear (hn x hx))

/-! ## Copies -/

mutual

/-- A tree planted outside spares the region, and its top is outside. -/
theorem spares_plant {doc : Document} (h : Closed region doc) {parent : Option Handle}
    (hp : ∀ p, parent = some p → ¬ region p) :
    (t : Tree) → Spares region doc (doc.plant parent t).2 ∧ ¬ region (doc.plant parent t).1
  | .node content children => by
    have htop : ¬ region doc.size := fun hr => Nat.lt_irrefl _ (h.exist _ hr)
    have hpush : Spares region doc (doc.push ⟨content, parent, [], false⟩) :=
      spares_push h content false hp
    obtain ⟨hbelow, hlist⟩ := spares_plantAll hpush.closed htop children
    have hmade := hpush.trans hbelow
    let below := ((doc.push ⟨content, parent, [], false⟩).plantAll doc.size children).1
    let made := ((doc.push ⟨content, parent, [], false⟩).plantAll doc.size children).2
    have hlisted : Spares region made (made.mapChildren doc.size fun _ => below) :=
      spares_mapChildren hmade.closed htop hlist
    exact ⟨hmade.trans hlisted, htop⟩

theorem spares_plantAll {doc : Document} (h : Closed region doc) {top : Handle}
    (ht : ¬ region top) :
    (trees : List Tree) → Spares region doc (doc.plantAll top trees).2 ∧
      ∀ x ∈ (doc.plantAll top trees).1, ¬ region x
  | [] => ⟨.refl h, nofun⟩
  | t :: rest => by
    have hparent : ∀ p, some top = some p → ¬ region p := by
      intro p he
      cases he
      exact ht
    obtain ⟨hfirst, hout⟩ := spares_plant h hparent t
    obtain ⟨hrest, hlist⟩ := spares_plantAll hfirst.closed ht rest
    refine ⟨hfirst.trans hrest, fun x hx => ?_⟩
    rcases List.mem_cons.mp hx with he | hx
    · rw [he]
      exact hout
    · exact hlist x hx

end

/-! ## Operations -/

/-- Whatever becomes of the operation, it leaves the region alone. -/
def Leaves {α : Type} (region : Handle → Prop) (change : Change α) (doc : Document) : Prop :=
  Spares region doc (left (change doc))

theorem leaves_detach (h : Closed region a) {x : Handle} (hx : Clear region a x) :
    Leaves region (detach x) a := by
  unfold Leaves detach
  split
  · split
    · exact spares_unlink h hx
    · exact .refl h
  · exact .refl h

theorem spares_foldl_unlink (h : Closed region a) {nodes : List Handle}
    (hn : ∀ x ∈ nodes, Clear region a x) : Spares region a (nodes.foldl unlink a) := by
  apply spares_foldl _ (.refl h)
  intro doc hd x hx
  exact spares_unlink hd.closed (hd.clear (hn x hx))

/-- Clear nodes that are taken out to be moved spare the region. -/
theorem spares_unlinkAll (h : Closed region a) {nodes : List Handle}
    (hn : ∀ x ∈ nodes, Clear region a x) : Spares region a (a.unlinkAll nodes) :=
  spares_foldl_unlink h fun x hx => hn x (List.mem_filter.mp hx).1

theorem spares_replaceChildren (h : Closed region a) (ht : a.Treelike) {x : Handle}
    (hx : ¬ region x) (text : String) : Spares region a (a.replaceChildren x text) := by
  have hempty : Spares region a ((a.children x).foldl unlink a) :=
    spares_foldl_unlink h fun y hy => h.clear_child ht hx hy
  unfold replaceChildren
  dsimp only
  split
  · exact hempty
  · have hnone : ∀ p, (none : Option Handle) = some p → ¬ region p := nofun
    have hmade := hempty.trans (spares_push hempty.closed (.text text) false hnone)
    apply hmade.trans
    apply spares_link hmade.closed hx
    · intro y hy
      rw [List.mem_singleton.mp hy]
      exact clear_create hempty.closed (.text text)
    · exact fun y hy => List.mem_append.mp hy

/-- Setting the text of a node outside leaves the region. -/
theorem leaves_setText (h : Closed region a) (ht : a.Treelike) {x : Handle} (hx : ¬ region x)
    (text : String) : Leaves region (setText x text) a := by
  unfold Leaves setText
  cases a.kindOf x with
  | error e => exact .refl h
  | ok kind =>
    cases kind with
    | placeholder => exact .refl h
    | comment | text => exact spares_setContent h hx _
    | document | fragment | element => exact spares_replaceChildren h ht hx text

theorem leaves_setAttribute (h : Closed region a) {x : Handle} (hx : ¬ region x) (name : String)
    (space : Option String) (value : String) :
    Leaves region (setAttribute x name space value) a := by
  unfold Leaves setAttribute
  split
  · exact .refl h
  · split
    · exact spares_setContent h hx _
    · exact .refl h

theorem leaves_removeAttribute (h : Closed region a) {x : Handle} (hx : ¬ region x)
    (name : String) (space : Option String) : Leaves region (removeAttribute x name space) a := by
  unfold Leaves removeAttribute
  split
  · exact .refl h
  · split
    · split
      · exact spares_setContent h hx _
      · exact .refl h
    · exact .refl h

/-! ### Insertions -/

/-- Operands clear of the region move nodes clear of the region only. -/
theorem clear_of_flatten (h : Closed region a) (ht : a.Treelike) {nodes moved : List Handle}
    (hf : a.flatten nodes = .ok moved) (hn : ∀ x ∈ nodes, Clear region a x) :
    ∀ x ∈ moved, Clear region a x := by
  intro x hx
  rcases mem_of_flatten hf hx with ⟨hm, -⟩ | ⟨f, hm, -, hc⟩
  · exact hn x hm
  · exact h.clear_child ht (hn f hm).1 hc

/-- The nodes that are moved are clear when those that were named are. -/
theorem clear_of_movable (h : Closed region a) (ht : a.Treelike) {parent : Handle}
    {nodes moved : List Handle} (hm : a.movable parent nodes = .ok moved)
    (hn : ∀ x ∈ nodes, Clear region a x) : ∀ x ∈ moved, Clear region a x :=
  clear_of_flatten h ht ((movable_ok_iff a parent nodes moved).mp hm).2.1 hn

/-- Linking at the end of a node outside the region. -/
theorem leaves_linkLast (h : Closed region a) {parent : Handle} (hp : ¬ region parent)
    {nodes : List Handle} (hn : ∀ x ∈ nodes, Clear region a x) :
    Leaves region (linkLast parent nodes) a := by
  have hlinked : Spares region a (a.link parent (· ++ nodes) nodes) := by
    apply spares_link h hp hn
    exact fun x hx => List.mem_append.mp hx
  exact hlinked

/-- Appending clear nodes to a parent outside leaves the region. -/
theorem leaves_appendChildren (h : Closed region a) (ht : a.Treelike) {parent : Handle}
    (hp : ¬ region parent) {nodes : List Handle} (hn : ∀ x ∈ nodes, Clear region a x) :
    Leaves region (appendChildren parent nodes) a := by
  unfold Leaves appendChildren
  rw [run_bind]
  cases hm : a.movable parent nodes with
  | error e =>
    rw [prepare_of_error hm]
    exact .refl h
  | ok moved =>
    rw [prepare_of_ok hm]
    have hclear := clear_of_movable h ht hm hn
    have hcut := spares_unlinkAll h hclear
    exact hcut.trans (leaves_linkLast hcut.closed hp fun x hx => hcut.clear (hclear x hx))

/-- Linking before an anchor that is clear of the region. -/
theorem leaves_linkBefore (h : Closed region a) {anchor : Handle} (hanchor : Clear region a anchor)
    {nodes : List Handle} (hn : ∀ x ∈ nodes, Clear region a x) :
    Leaves region (linkBefore anchor nodes) a := by
  unfold Leaves linkBefore
  cases hp : a.parent? anchor with
  | none => exact .refl h
  | some parent =>
    dsimp only
    split
    · apply spares_link h (hanchor.2 parent hp) hn
      intro x hx
      exact List.mem_append.mp ((perm_spliceBefore anchor nodes _).mem_iff.mp hx)
    · exact .refl h

/-- The operations beside a reference node check first, and nothing has changed when a check
fails; so they leave the region alone if their last step does. -/
theorem leaves_beside (h : Closed region a) (ht : a.Treelike) {reference : Handle}
    (hr : Clear region a reference) {nodes : List Handle} (hn : ∀ x ∈ nodes, Clear region a x)
    {finish : Handle → List Handle → Change Unit}
    (hfinish : ∀ parent moved, ¬ region parent → Spares region a (a.unlinkAll moved) →
      (∀ x ∈ moved, Clear region (a.unlinkAll moved) x) →
      Leaves region (finish parent moved) (a.unlinkAll moved)) :
    Leaves region (do
      let parent ← check fun doc => doc.anchorParent reference nodes
      let moved ← prepare parent nodes
      finish parent moved : Change Unit) a := by
  unfold Leaves
  cases ha : a.anchorParent reference nodes with
  | error e =>
    rw [run_bind_of_error (check_of_error ha)]
    exact .refl h
  | ok parent =>
    rw [run_bind_of_ok (check_of_ok ha)]
    have hparent : ¬ region parent := hr.2 parent (anchorParent_ok ha).1
    cases hm : a.movable parent nodes with
    | error e =>
      rw [run_bind_of_error (prepare_of_error hm)]
      exact .refl h
    | ok moved =>
      rw [run_bind_of_ok (prepare_of_ok hm)]
      have hclear := clear_of_movable h ht hm hn
      have hcut := spares_unlinkAll h hclear
      exact hcut.trans (hfinish parent moved hparent hcut fun x hx => hcut.clear (hclear x hx))

/-- Inserting clear nodes before a clear one leaves the region. -/
theorem leaves_insertBefore (h : Closed region a) (ht : a.Treelike) {reference : Handle}
    (hr : Clear region a reference) {nodes : List Handle} (hn : ∀ x ∈ nodes, Clear region a x) :
    Leaves region (insertBefore reference nodes) a := by
  apply leaves_beside h ht hr hn
  intro parent moved _ hcut hclear
  exact leaves_linkBefore hcut.closed (hcut.clear hr) hclear

theorem leaves_insertAfter (h : Closed region a) (ht : a.Treelike) {reference : Handle}
    (hr : Clear region a reference) {nodes : List Handle} (hn : ∀ x ∈ nodes, Clear region a x) :
    Leaves region (insertAfter reference nodes) a := by
  apply leaves_beside h ht hr hn
  intro parent moved hp hcut hclear
  have htree := (loosened_unlinkAll ht moved).treelike ht
  have hget : (get : Change Document) (a.unlinkAll moved) =
      .ok (a.unlinkAll moved) (a.unlinkAll moved) := rfl
  unfold Leaves
  rw [run_bind_of_ok hget]
  cases hnext : (a.unlinkAll moved).nextSibling? parent reference with
  | none => exact leaves_linkLast hcut.closed hp hclear
  | some next =>
    have hnc : Clear region (a.unlinkAll moved) next :=
      hcut.closed.clear_child htree hp (mem_children_of_nextSibling? hnext)
    exact leaves_linkBefore hcut.closed hnc hclear

/-- Replacing a clear node by clear ones leaves the region. -/
theorem leaves_replaceWith (h : Closed region a) (ht : a.Treelike) {old : Handle}
    (hold : Clear region a old) {nodes : List Handle} (hn : ∀ x ∈ nodes, Clear region a x) :
    Leaves region (replaceWith old nodes) a := by
  apply leaves_beside h ht hold hn
  intro parent moved _ hcut hclear
  have hlink := leaves_linkBefore hcut.closed (hcut.clear hold) hclear
  unfold Leaves at hlink ⊢
  cases hr : linkBefore old moved (a.unlinkAll moved) with
  | error e doc =>
    rw [hr] at hlink
    rw [run_bind_of_error hr]
    exact hlink
  | ok u doc =>
    rw [hr] at hlink
    rw [run_bind_of_ok hr]
    exact hlink.trans (spares_unlink hlink.closed (hlink.clear (hcut.clear hold)))

end PageHost.Document
