import PageHost.Proofs.Document.Operations
import PageHost.Proofs.Document.Region
/-!
# Which nodes are live

A node becomes live when it is adopted by a live one, and nodes that leave their
place stop being live. So a live node stands somewhere: it is a document, it has a
parent, or a list names it that is about to become its parent's. `Standing` says
this of a whole document, and every operation keeps it.

Linking makes nodes only where liveness changes. Between nodes that are not live it
writes the links and nothing else.
-/

namespace PageHost.Document

/-- The node is a document, has a parent, or is listed. -/
def Stands (doc : Document) (x : Handle) : Prop :=
  doc.kind? x = some .document ∨ (∃ p, doc.parent? x = some p) ∨ ∃ p, x ∈ doc.children p

/-- Every live node stands somewhere. -/
def Standing (doc : Document) : Prop := ∀ x, doc.live x = true → doc.Stands x

/-! ## What is live after a write -/

/-- A node is live when it exists and its place is live. -/
theorem live_eq (doc : Document) (x : Handle) :
    doc.live x = ((doc.node? x).map (·.live)).getD false := by
  unfold live
  cases doc.node? x <;> rfl

/-- A node is determined by what the views answer. -/
theorem node?_eq_of_views {a b : Document} {x : Handle} (hc : b.content? x = a.content? x)
    (hp : b.parent? x = a.parent? x) (hl : b.children x = a.children x)
    (hv : b.live x = a.live x) : b.node? x = a.node? x := by
  unfold content? at hc
  unfold parent? at hp
  rw [children_eq, children_eq] at hl
  rw [live_eq, live_eq] at hv
  cases ha : a.node? x with
  | none =>
    rw [ha, Option.map_none, Option.map_eq_none_iff] at hc
    exact hc
  | some node =>
    rw [ha] at hc hp hl hv
    cases hb : b.node? x with
    | none =>
      rw [hb] at hc
      cases hc
    | some other =>
      rw [hb] at hc hp hl hv
      obtain ⟨content, parent, children, live⟩ := node
      obtain ⟨content', parent', children', live'⟩ := other
      cases Option.some.inj hc
      cases hp
      cases hl
      cases hv
      rfl

/-- Live nodes exist. -/
theorem lt_size_of_live {doc : Document} {x : Handle} (h : doc.live x = true) : x < doc.size := by
  apply Nat.lt_of_not_le
  intro hs
  rw [live, (node?_eq_none_iff doc x).mpr hs] at h
  cases h

/-- Nodes that are the same are equally live. -/
theorem live_of_node?_eq {a b : Document} {x : Handle} (h : b.node? x = a.node? x) :
    b.live x = a.live x := by rw [live, h, live]

theorem live_push (doc : Document) (node : Node) (x : Handle) :
    (doc.push node).live x = if x = doc.size then node.live else doc.live x := by
  rw [live_eq, node?_push]
  split
  · rfl
  · rw [← live_eq]

/-- A change of another field of a place leaves it as live as it was. -/
theorem live_update (doc : Document) (h x : Handle) {f : Place → Place}
    (hf : ∀ place, (f place).live = place.live) : (doc.update h f).live x = doc.live x := by
  rw [live_eq, node?_update, live_eq]
  split
  · rw [Option.map_map]
    exact congrArg (fun g => (Option.map g _).getD false) (funext fun node => hf node.place)
  · rfl

@[simp] theorem live_setParent (doc : Document) (h x : Handle) (parent : Option Handle) :
    (doc.setParent h parent).live x = doc.live x := live_update _ _ _ fun _ => rfl

/-- A change of a child list leaves all nodes as live as they were. -/
@[simp] theorem live_mapChildren (doc : Document) (h x : Handle) (f : List Handle → List Handle) :
    (doc.mapChildren h f).live x = doc.live x := live_update _ _ _ fun _ => rfl

@[simp] theorem live_dropChild (doc : Document) (p c x : Handle) :
    (doc.dropChild p c).live x = doc.live x := live_mapChildren _ _ _ _

/-- What is live after nodes have been marked: a marked node has the mark. -/
theorem live_markAll {doc : Document} {mark : Bool} {nodes : List Handle} {x : Handle}
    (h : (nodes.foldl (fun doc d => doc.update d fun place => { place with live := mark })
      doc).live x = true) : (x ∈ nodes ∧ mark = true ∧ x < doc.size) ∨ (x ∉ nodes ∧ doc.live x = true) := by
  induction nodes generalizing doc with
  | nil => exact Or.inr ⟨List.not_mem_nil, h⟩
  | cons d rest ih =>
    have hd : (doc.update d fun place => { place with live := mark }).live x = true →
        (x = d ∧ mark = true ∧ x < doc.size) ∨ (x ≠ d ∧ doc.live x = true) := by
      intro hx
      have hs : x < doc.size := by simpa using lt_size_of_live hx
      by_cases hxd : x = d
      · subst hxd
        obtain ⟨node, hn⟩ := node?_of_lt_size hs
        rw [live, node?_update, if_pos rfl, hn] at hx
        exact Or.inl ⟨rfl, hx, hs⟩
      · rw [live_of_node?_eq (doc.node?_update_of_ne hxd _)] at hx
        exact Or.inr ⟨hxd, hx⟩
    rcases ih h with ⟨hm, hl, hs⟩ | ⟨hm, hx⟩
    · exact Or.inl ⟨List.mem_cons_of_mem d hm, hl, by simpa using hs⟩
    · rcases hd hx with ⟨rfl, hl, hs⟩ | ⟨hne, hx⟩
      · exact Or.inl ⟨List.mem_cons_self, hl, hs⟩
      · exact Or.inr ⟨by simp [hne, hm], hx⟩

/-- A node that leaves its place is not live any more, and no other node becomes live. -/
theorem live_unlink {doc : Document} (ht : doc.Treelike) {h x : Handle}
    (hx : (doc.unlink h).live x = true) : x ≠ h ∧ doc.live x = true := by
  have hcut : ∀ y, (doc.cut h).live y = doc.live y := by
    intro y
    unfold cut
    cases doc.parent? h <;> simp
  have hl := loosened_cut ht h
  rcases live_markAll hx with ⟨-, hfalse, -⟩ | ⟨hm, hlive⟩
  · cases hfalse
  · have hold : doc.live x = true := (hcut x).symm.trans hlive
    refine ⟨?_, hold⟩
    rintro rfl
    have hs : x < (doc.cut x).size := by
      rw [hl.size]
      exact lt_size_of_live hold
    exact hm ((mem_descendants_iff (hl.treelike ht) hs x).mpr .here)

/-- Nodes that are taken out are not live, and no other node becomes live. -/
theorem live_foldl_unlink {doc : Document} (ht : doc.Treelike) {nodes : List Handle} {x : Handle}
    (hx : (nodes.foldl unlink doc).live x = true) : x ∉ nodes ∧ doc.live x = true := by
  induction nodes generalizing doc with
  | nil => exact ⟨List.not_mem_nil, hx⟩
  | cons h rest ih =>
    obtain ⟨hm, hlive⟩ := ih ((loosened_unlink ht h).treelike ht) hx
    obtain ⟨hne, hold⟩ := live_unlink ht hlive
    exact ⟨by simp [hne, hm], hold⟩

mutual

/-- A copy is not live, and nothing else becomes live. -/
theorem live_plant {x : Handle} (doc : Document) (parent : Option Handle) :
    (t : Tree) → (doc.plant parent t).2.live x = true → doc.live x = true
  | .node content children, h => by
    let below := ((doc.push ⟨content, parent, [], false⟩).plantAll doc.size children).1
    let made := ((doc.push ⟨content, parent, [], false⟩).plantAll doc.size children).2
    have hbelow : (made.mapChildren doc.size fun _ => below).live x = true := h
    rw [live_mapChildren] at hbelow
    have hpush := live_plantAll _ doc.size children hbelow
    rw [live_push] at hpush
    split at hpush
    · cases hpush
    · exact hpush

/-- Planted trees are not live. -/
theorem live_plantAll {x : Handle} (doc : Document) (top : Handle) :
    (trees : List Tree) → (doc.plantAll top trees).2.live x = true → doc.live x = true
  | [], h => h
  | t :: rest, h => by
    rw [plantAll] at h
    exact live_plant doc (some top) t (live_plantAll _ top rest h)

end

/-! ## Standing somewhere -/

/-- On the blank page all live nodes stand. -/
theorem standing_blank : blank.Standing := by
  intro x hx
  rcases eq_of_lt_four (lt_size_of_live hx) with rfl | rfl | rfl | rfl
  · exact Or.inl rfl
  · exact Or.inr (Or.inl ⟨0, rfl⟩)
  · exact Or.inr (Or.inl ⟨1, rfl⟩)
  · exact Or.inr (Or.inl ⟨1, rfl⟩)

/-- A node stands as long as its kind and its parent stay and no list loses it. -/
theorem Stands.mono {a b : Document} {x : Handle} (h : a.Stands x)
    (hk : b.kind? x = a.kind? x) (hp : b.parent? x = a.parent? x)
    (hc : ∀ p, x ∈ a.children p → x ∈ b.children p) : b.Stands x := by
  rcases h with hd | ⟨p, hup⟩ | ⟨p, hm⟩
  · exact Or.inl (hk.trans hd)
  · exact Or.inr (Or.inl ⟨p, hp.trans hup⟩)
  · exact Or.inr (Or.inr ⟨p, hc p hm⟩)

/-- In documents with the same links the same nodes stand. -/
theorem Alike.stands {a b : Document} (h : a.Alike b) {x : Handle} (hx : a.Stands x) :
    b.Stands x := by
  refine hx.mono (h.kind x) (h.parent x) fun p hm => ?_
  rw [h.children]
  exact hm

/-- A live node of a document that is in order is a document or has a parent. -/
theorem Standing.placed {doc : Document} (h : doc.Standing) (ht : doc.Treelike) {x : Handle}
    (hx : doc.live x = true) : doc.kind? x = some .document ∨ ∃ p, doc.parent? x = some p := by
  rcases h x hx with hd | hp | ⟨p, hm⟩
  · exact Or.inl hd
  · exact Or.inr hp
  · exact Or.inr ⟨p, ht.parent_of_mem p x hm⟩

section Steps

variable {doc : Document}

/-- A fresh node stands somewhere if it is live. -/
theorem standing_push (h : doc.Standing) (content : Content) {parent : Option Handle} {live : Bool}
    (hp : live = true → ∃ p, parent = some p) :
    (doc.push ⟨content, parent, [], live⟩).Standing := by
  intro x hx
  rw [live_push] at hx
  by_cases hs : x = doc.size
  · rw [if_pos hs] at hx
    obtain ⟨p, rfl⟩ := hp hx
    exact Or.inr (Or.inl ⟨p, by rw [parent?_push, if_pos hs]⟩)
  · rw [if_neg hs] at hx
    refine (h x hx).mono ?_ ?_ fun p hm => ?_
    · rw [kind?_eq, content?_push, if_neg hs, ← kind?_eq]
    · rw [parent?_push, if_neg hs]
    · rw [children_push_nil]
      exact hm

/-- A fresh node is not live, so all live nodes stand. -/
theorem standing_create (h : doc.Standing) (content : Content) :
    (doc.create content).2.Standing := standing_push h content nofun

/-- Live nodes go on standing when a node gets other content of its kind. -/
theorem standing_setContent (h : doc.Standing) {x : Handle} {content : Content}
    (hk : doc.kind? x = some content.kind) : (doc.setContent x content).Standing := by
  intro y hy
  rw [live_setContent] at hy
  refine (h y hy).mono ?_ (parent?_setContent doc x y content) fun p hm => ?_
  · rw [kind?_eq, content?_setContent hk]
    split
    · rename_i hx
      exact hx ▸ hk.symm
    · rw [kind?_eq]
  · rwa [children_setContent]

/-- A longer list shows more nodes standing. -/
theorem standing_mapChildren (h : doc.Standing) {p : Handle} {f : List Handle → List Handle}
    (hf : ∀ x ∈ doc.children p, x ∈ f (doc.children p)) : (doc.mapChildren p f).Standing := by
  intro x hx
  rw [live_mapChildren] at hx
  refine (h x hx).mono ?_ (parent?_mapChildren doc p x f) fun q hm => ?_
  · rw [kind?_eq, content?_mapChildren, ← kind?_eq]
  · have hq : q < doc.size := lt_size_of_mem_children hm
    by_cases hqp : p = q
    · subst hqp
      rw [children_mapChildren hq, if_pos rfl]
      exact hf x hm
    · rw [children_eq, mapChildren, doc.node?_update_of_ne (Ne.symm hqp), ← children_eq]
      exact hm

/-- Live nodes go on standing when a node is made below another. -/
theorem standing_createBelow (h : doc.Standing) (p : Handle) (content : Content) :
    (doc.createBelow p content).2.Standing := by
  have hpush : (doc.push ⟨content, some p, [], true⟩).Standing :=
    standing_push h content fun _ => ⟨p, rfl⟩
  rw [createBelow_snd]
  exact standing_mapChildren hpush fun x hx => List.mem_append_left _ hx

theorem standing_fillControl (h : doc.Standing) (x : Handle) : (doc.fillControl x).Standing := by
  unfold fillControl
  split
  · split
    · split
      · split
        · exact h
        · exact standing_createBelow h x _
      · split
        · apply standing_createBelow
          apply standing_createBelow
          apply standing_createBelow
          exact standing_createBelow h x _
        · exact h
    · exact h
  · exact h

/-- All below a node are listed by some node, so only the node itself has to stand somewhere. -/
theorem standing_enter (h : doc.Standing) {x : Handle} (hx : x < doc.size → doc.Stands x) :
    (doc.enter x).Standing := by
  have hmark : (doc.markLive x true).Standing := by
    intro y hy
    apply (alike_markLive doc x true).stands
    rcases live_markAll hy with ⟨hm, -, hs⟩ | ⟨-, hlive⟩
    · rcases below_of_mem_descendants hm with _ | ⟨-, hc⟩
      · exact hx hs
      · exact Or.inr (Or.inr ⟨_, hc⟩)
    · exact h y hlive
  have hfill : ∀ (nodes : List Handle) (doc : Document), doc.Standing →
      (nodes.foldl fillControl doc).Standing := by
    intro nodes
    induction nodes with
    | nil => exact fun _ h => h
    | cons n rest ih => exact fun _ h => ih _ (standing_fillControl h n)
  exact hfill _ _ hmark

/-- Live nodes go on standing when a node is adopted: the old parent drops the child, which has its
new parent by then. -/
theorem standing_adopt (h : doc.Standing) (parent child : Handle) :
    (adopt parent doc child).Standing := by
  have hchild : child < doc.size →
      (doc.setParent child (some parent)).parent? child = some parent := by
    intro hs
    rw [parent?_setParent hs, if_pos rfl]
  have hmoved : (doc.setParent child (some parent)).Standing := by
    intro x hx
    rw [live_setParent] at hx
    by_cases hxc : x = child
    · subst hxc
      exact Or.inr (Or.inl ⟨parent, hchild (lt_size_of_live hx)⟩)
    · refine (h x hx).mono ?_ ?_ fun p hm => ?_
      · rw [kind?_eq, content?_setParent, ← kind?_eq]
      · exact congrArg (·.bind (·.parent)) (doc.node?_update_of_ne hxc _)
      · rw [children_setParent]
        exact hm
  have hentered : (if doc.live parent ≠ doc.live child then
      (doc.setParent child (some parent)).enter child
        else doc.setParent child (some parent)).Standing := by
    split
    · apply standing_enter hmoved
      intro hs
      rw [size_setParent] at hs
      exact Or.inr (Or.inl ⟨parent, hchild hs⟩)
    · exact hmoved
  have hgrown : Grows (doc.setParent child (some parent))
      (if doc.live parent ≠ doc.live child then
        (doc.setParent child (some parent)).enter child
          else doc.setParent child (some parent)) := by
    split
    · exact grows_enter .refl child
    · exact .refl
  unfold adopt
  cases hold : doc.parent? child with
  | none => exact hentered
  | some p =>
    have hs : child < doc.size := lt_size_of_parent? hold
    intro x hx
    rw [live_dropChild] at hx
    by_cases hxc : x = child
    · subst hxc
      refine Or.inr (Or.inl ⟨parent, ?_⟩)
      rw [parent?_dropChild]
      exact (hgrown.parent?_eq (by simpa using hs)).trans (hchild hs)
    · refine (hentered x hx).mono ?_ (parent?_dropChild _ _ _ _) fun q hm => ?_
      · rw [kind?_eq, content?_dropChild, ← kind?_eq]
        rfl
      · rw [children_dropChild]
        split
        · exact List.mem_filter.mpr ⟨hm, by simpa using hxc⟩
        · exact hm

/-- Live nodes go on standing when nodes are linked into a list that loses none. -/
theorem standing_link (h : doc.Standing) (parent : Handle) {place : List Handle → List Handle}
    (hplace : ∀ x ∈ doc.children parent, x ∈ place (doc.children parent)) (nodes : List Handle) :
    (doc.link parent place nodes).Standing := by
  have hfold : ∀ (nodes : List Handle) (doc : Document), doc.Standing →
      (nodes.foldl (adopt parent) doc).Standing := by
    intro nodes
    induction nodes with
    | nil => exact fun _ h => h
    | cons n rest ih => exact fun _ h => ih _ (standing_adopt h parent n)
  exact hfold nodes _ (standing_mapChildren h hplace)

/-- When nodes are taken out, those that stay live go on standing. -/
theorem Loosened.standing {a b : Document} {nodes : List Handle} (h : Loosened a nodes b)
    (ha : a.Standing) (hlive : ∀ x, b.live x = true → x ∉ nodes ∧ a.live x = true) :
    b.Standing := by
  intro x hx
  obtain ⟨hn, hold⟩ := hlive x hx
  refine (ha x hold).mono (h.kind x) ?_ fun p hm => ?_
  · rw [h.parent, if_neg hn]
  · rw [h.children]
    exact List.mem_filter.mpr ⟨hm, by simpa using hn⟩

/-- Live nodes go on standing when a node is taken out. -/
theorem standing_unlink (h : doc.Standing) (ht : doc.Treelike) (x : Handle) :
    (doc.unlink x).Standing := by
  refine (loosened_unlink ht x).standing h fun y hy => ?_
  obtain ⟨hne, hlive⟩ := live_unlink ht hy
  exact ⟨by simpa using hne, hlive⟩

theorem standing_foldl_unlink (h : doc.Standing) (ht : doc.Treelike) (nodes : List Handle) :
    (nodes.foldl unlink doc).Standing :=
  (loosened_foldl_unlink ht nodes).standing h fun _ hy => live_foldl_unlink ht hy

/-- Live nodes go on standing when nodes are taken out to be moved. -/
theorem standing_unlinkAll (h : doc.Standing) (ht : doc.Treelike) (nodes : List Handle) :
    (doc.unlinkAll nodes).Standing := standing_foldl_unlink h ht _

end Steps

/-! ## Operations -/

section Operations

variable {doc : Document}

theorem standing_detach (h : doc.Standing) (ht : doc.Treelike) (x : Handle) :
    (left (detach x doc)).Standing := by
  unfold detach
  split
  · split
    · exact standing_unlink h ht x
    · exact h
  · exact h

/-- Live nodes go on standing when a node is copied. -/
theorem standing_deepClone (h : doc.Standing) (ht : doc.Treelike) (x : Handle) :
    (left (deepClone x doc)).Standing := by
  cases hc : deepClone x doc with
  | error e doc' =>
    have hsame : doc' = doc := by
      unfold deepClone at hc
      split at hc <;> cases hc
      rfl
    rw [hsame]
    exact h
  | ok copy doc' =>
    have hp := planted_deepClone ht hc
    intro y hy
    obtain ⟨t, -, -, hsame, -⟩ := deepClone_inv ht hc
    have hlive : doc.live y = true :=
      live_plant doc none t ((live_of_node?_eq (hsame y)).symm.trans hy)
    have hs : y < doc.size := lt_size_of_live hlive
    have hframe := hp.frame y hs
    refine (h y hlive).mono (kind?_of_node?_eq hframe) (parent?_of_node?_eq hframe) fun p hm => ?_
    have hlist := children_of_node?_eq (hp.frame p (lt_size_of_mem_children hm))
    exact hlist ▸ hm

theorem standing_setAttribute (h : doc.Standing) (x : Handle) (name : String)
    (space : Option String) (value : String) :
    (left (setAttribute x name space value doc)).Standing := by
  unfold setAttribute
  split
  · exact h
  · rename_i node hn
    split
    · rename_i element attributes hc
      apply standing_setContent h
      rw [kind?_of_node? hn, hc]
      rfl
    · exact h

theorem standing_removeAttribute (h : doc.Standing) (x : Handle) (name : String)
    (space : Option String) : (left (removeAttribute x name space doc)).Standing := by
  unfold removeAttribute
  split
  · exact h
  · rename_i node hn
    split
    · rename_i element attributes hc
      split
      · apply standing_setContent h
        rw [kind?_of_node? hn, hc]
        rfl
      · exact h
    · exact h

/-- Live nodes go on standing when children are replaced by a text. -/
theorem standing_replaceChildren (h : doc.Standing) (ht : doc.Treelike) (x : Handle)
    (text : String) : (doc.replaceChildren x text).Standing := by
  have hempty := standing_foldl_unlink h ht (doc.children x)
  unfold replaceChildren
  dsimp only
  split
  · exact hempty
  · have hmade := standing_create hempty (.text text)
    apply standing_link hmade
    exact fun y hy => List.mem_append_left _ hy

theorem standing_setText (h : doc.Standing) (ht : doc.Treelike) (x : Handle) (text : String) :
    (left (setText x text doc)).Standing := by
  unfold setText
  cases hk : doc.kindOf x with
  | error e => exact h
  | ok kind =>
    rw [kindOf_ok_iff] at hk
    cases kind with
    | placeholder => exact h
    | comment => exact standing_setContent h hk
    | text => exact standing_setContent h hk
    | document | fragment | element => exact standing_replaceChildren h ht x text

/-- An insertion leaves every live node standing somewhere, however it ends. -/
theorem Insertion.standing (h : doc.Standing) (ht : doc.Treelike) {nodes : List Handle}
    {result : EStateM.Result DomError Document Unit} (hi : Insertion doc nodes result) :
    (left result).Standing := by
  have hlink : ∀ (parent : Handle) (moved : List Handle) {place : List Handle → List Handle},
      (∀ list, (place list).Perm (list ++ moved)) →
      ((doc.unlinkAll moved).link parent place moved).Standing := by
    intro parent moved place hperm
    apply standing_link (standing_unlinkAll h ht moved)
    exact fun x hx => (hperm _).mem_iff.mpr (List.mem_append_left _ hx)
  cases hi with
  | refused e => exact h
  | stuck anchor hm => exact standing_unlinkAll h ht _
  | linked place hm hperm => exact hlink _ _ hperm
  | replaced old place hm hperm hold =>
    have hlinked := treelike_link ((loosened_unlinkAll ht _).treelike ht)
      (placeable_of_movable ht hm) (hperm _)
    exact standing_unlink (hlink _ _ hperm) hlinked old

/-- After every operation all live nodes stand. -/
theorem standing_run (h : doc.Standing) (ht : doc.Treelike) (operation : Operation) :
    (operation.run doc).Standing := by
  cases operation with
  | createElement tag space => exact standing_create h _
  | createText text => exact standing_create h _
  | createComment text => exact standing_create h _
  | createPlaceholder => exact standing_create h _
  | createFragment => exact standing_create h _
  | appendChildren parent nodes => exact (insertion_appendChildren doc parent nodes).standing h ht
  | insertBefore reference nodes =>
    exact (insertion_insertBefore ht reference nodes).standing h ht
  | insertAfter reference nodes => exact (insertion_insertAfter ht reference nodes).standing h ht
  | replaceWith old nodes => exact (insertion_replaceWith ht old nodes).standing h ht
  | detach node => exact standing_detach h ht node
  | setText node text => exact standing_setText h ht node text
  | setAttribute node name space value => exact standing_setAttribute h node name space value
  | removeAttribute node name space => exact standing_removeAttribute h node name space
  | deepClone node => exact standing_deepClone h ht node

end Operations

/-- Whatever operations have been carried out or refused, every live node stands somewhere. -/
theorem standing_afterOperations (operations : List Operation) :
    (afterOperations operations).Standing := by
  have hrun : ∀ doc : Document, doc.Treelike → doc.Standing →
      (operations.foldl Operation.run doc).Standing := by
    induction operations with
    | nil => exact fun _ _ h => h
    | cons operation rest ih =>
      exact fun doc ht h => ih _ (treelike_run ht operation) (standing_run h ht operation)
  exact hrun blank treelike_blank standing_blank

/-! ## Linking nodes that are not live -/

section Still

variable {doc : Document} {parent : Handle}

/-- Settling a node somewhere leaves all nodes as live as they were. -/
theorem live_settle (parent : Handle) (doc : Document) (child x : Handle) :
    (settle parent doc child).live x = doc.live x := by
  unfold settle
  cases doc.parent? child <;> simp

/-- A node that is as live as its new parent only gets its new parent. -/
theorem adopt_of_still {child : Handle} (h : doc.live parent = doc.live child) :
    adopt parent doc child = settle parent doc child := by
  unfold adopt settle
  dsimp only
  rw [if_neg (not_not_intro h)]
  rfl

/-- Nodes that are not live are adopted by a parent that is not live without any change to what is
live. -/
theorem foldl_adopt_of_still {nodes : List Handle} (hp : doc.live parent = false)
    (hn : ∀ c ∈ nodes, doc.live c = false) :
    nodes.foldl (adopt parent) doc = nodes.foldl (settle parent) doc ∧
      ∀ x, (nodes.foldl (settle parent) doc).live x = doc.live x := by
  induction nodes generalizing doc with
  | nil => exact ⟨rfl, fun _ => rfl⟩
  | cons c rest ih =>
    have hone : adopt parent doc c = settle parent doc c :=
      adopt_of_still (hp.trans (hn c List.mem_cons_self).symm)
    have hsame := live_settle parent doc c
    obtain ⟨heq, hlive⟩ := ih ((hsame parent).trans hp)
      fun d hd => (hsame d).trans (hn d (List.mem_cons_of_mem c hd))
    refine ⟨?_, fun x => (hlive x).trans (hsame x)⟩
    rw [List.foldl_cons, List.foldl_cons, hone, heq]

/-- Where neither the container nor the nodes are live, linking writes the links and makes no
node. -/
theorem relinked_of_still {nodes : List Handle} (h : doc.Placeable parent nodes)
    (place : List Handle → List Handle) (hp : doc.live parent = false)
    (hn : ∀ c ∈ nodes, doc.live c = false) :
    Relinked doc parent place nodes (doc.link parent place nodes) ∧
      ∀ x, (doc.link parent place nodes).live x = doc.live x := by
  have hlisted : ∀ x, (doc.mapChildren parent place).live x = doc.live x :=
    fun x => live_mapChildren doc parent x place
  have hstill : ∀ c ∈ nodes, (doc.mapChildren parent place).live c = false :=
    fun c hc => (hlisted c).trans (hn c hc)
  obtain ⟨heq, hlive⟩ := foldl_adopt_of_still ((hlisted parent).trans hp) hstill
  have hlink : doc.link parent place nodes =
      nodes.foldl (settle parent) (doc.mapChildren parent place) := heq
  rw [hlink]
  exact ⟨h.relinked_settle place, fun x => (hlive x).trans (hlisted x)⟩

/-- No node that moves is live when it has left its place. -/
theorem live_unlinkAll_of_movable (h : doc.Standing) (ht : doc.Treelike)
    {nodes moved : List Handle} (hm : doc.movable parent nodes = .ok moved) {c : Handle}
    (hc : c ∈ moved) : (doc.unlinkAll moved).live c = false := by
  have hplace := placeable_of_movable ht hm
  have hcut := loosened_unlinkAll ht moved
  rw [← Bool.not_eq_true]
  intro hx
  obtain ⟨hout, hold⟩ := live_foldl_unlink ht hx
  rcases h.placed ht hold with hk | ⟨p, hp⟩
  · rw [← hcut.kind] at hk
    exact (hplace.inner c hc).1 hk
  · exact hout (List.mem_filter.mpr ⟨hc, by rw [hp]; rfl⟩)

end Still

end PageHost.Document
