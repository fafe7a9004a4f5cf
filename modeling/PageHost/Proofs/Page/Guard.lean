import PageHost.Proofs.Document.Shape
import PageHost.Proofs.Page.Reach
/-!
# Templates out of reach

An edit finds nodes through ids, through the stack and by child positions, and it
writes to what it finds and to its parents and children. `Guards` says that nothing
the page holds leads to the tree of a template in this way. Every edit keeps it,
carried out or not: new ids are bound to fresh nodes, to nodes below the top of the
stack or to nodes that no template owns. So the tree stays as it is, and every use
of the template copies it.
-/

namespace PageHost

namespace Document

/-- What lies below a node without a parent is a region that nobody else lists. -/
theorem closed_below {doc : Document} (ht : doc.Treelike) {top : Handle} (hs : top < doc.size)
    (hp : doc.parent? top = none) : Closed (doc.Below top) doc where
  exist x hx := hx.lt_size ht hs
  lister p c hc hx := by
    cases hx with
    | here =>
      have hlisted := ht.parent_of_mem p top hc
      rw [hp] at hlisted
      cases hlisted
    | @child q c hq hcq =>
      rw [ht.lister_unique hc hcq]
      exact hq

variable {region : Handle → Prop} {a b : Document}

/-- The same nodes leave every region alone. -/
theorem spares_of_nodes (h : Closed region a) (hn : b.nodes = a.nodes) : Spares region a b := by
  have hnode : ∀ x, b.node? x = a.node? x := fun x => by rw [node?, hn, node?]
  refine ⟨⟨fun x hx => ?_, fun p c hc hr => ?_⟩, fun x _ => hnode x, fun x p hp _ => ?_⟩
  · have hlt := h.exist x hx
    rw [size, hn]
    exact hlt
  · rw [children_of_node?_eq (hnode p)] at hc
    exact h.lister p c hc hr
  · rwa [parent?_of_node?_eq (hnode x)] at hp

/-- What was below a node of a spared region is below it still. -/
theorem Spares.below {top : Handle} (h : Spares (a.Below top) a b) {x : Handle}
    (hx : a.Below top x) : b.Below top x := by
  induction hx with
  | here => exact .here
  | child hp hc ih =>
    apply ih.child
    rw [children_of_node?_eq (h.same _ hp)]
    exact hc

/-- Child positions lead from a node that is clear of a region to nodes that are clear of it. -/
theorem Closed.clear_atPath (h : Closed region a) (ht : a.Treelike) {path : List Nat}
    {top n : Handle} (hc : Clear region a top) (hp : a.atPath top path = some n) :
    Clear region a n := by
  induction path generalizing top with
  | nil =>
    cases hp
    exact hc
  | cons i rest ih =>
    rw [atPath] at hp
    obtain ⟨child, hi, hrest⟩ := Option.bind_eq_some_iff.mp hp
    exact ih (h.clear_child ht hc.1 (List.mem_of_getElem? hi)) hrest

/-- A node that is made for an id is clear of every region. -/
theorem Makes.spares {node : Handle} (hm : a.Makes node b) (h : Closed region a)
    (ht : a.Treelike) : Spares region a b ∧ Clear region b node := by
  cases hm with
  | created content =>
    exact ⟨spares_push h content false nofun, clear_create h content⟩
  | @copied original copy doc' hc =>
    have hleaves := leaves_deepClone h ht original
    unfold Leaves at hleaves
    rw [hc] at hleaves
    obtain ⟨hle, -, hp⟩ := (planted_deepClone ht hc).fresh node (List.mem_singleton.mpr rfl)
    refine ⟨hleaves, fun hr => ?_, fun p hq => ?_⟩
    · have hlt := h.exist node hr
      exact absurd hlt (Nat.not_lt.mpr hle)
    · rw [hp] at hq
      cases hq

/-- A node made in a treelike document leaves it treelike. -/
theorem Makes.treelike {node : Handle} (hm : a.Makes node b) (ht : a.Treelike) : b.Treelike := by
  cases hm with
  | created content => exact (advances_create ht content).treelike
  | copied hc => exact (planted_deepClone ht hc).treelike

/-- Writing to a node outside a region leaves the region alone. -/
theorem Rewrites.spares {node : Handle} (hw : a.Rewrites node b) (h : Closed region a)
    (ht : a.Treelike) (hn : ¬ region node) : Spares region a b :=
  hw.of_left (leaves_setText h ht hn) (leaves_setAttribute h hn) (leaves_removeAttribute h hn)

/-- A node rewritten in a treelike document leaves it treelike. -/
theorem Rewrites.treelike {node : Handle} (hw : a.Rewrites node b) (ht : a.Treelike) :
    b.Treelike :=
  hw.of_left (fun text => (advances_setText ht node text).treelike)
    (fun name space value => (advances_setAttribute ht node name space value).treelike)
    (fun name space => (advances_removeAttribute ht node name space).treelike)

end Document

namespace Page

open Document

/-! ## What the page holds -/

/-- The page holds what an id names. -/
theorem holds_of_lookup {page : Page} {id : NodeId} {node : Handle}
    (h : page.bindings.lookup? id = some node) : page.Holds node := Or.inr ⟨id, h⟩

theorem holds_of_mem {page : Page} {slot : Operand} (h : slot ∈ page.operands.slots) :
    page.Holds slot.node := Or.inl ⟨slot, h, rfl⟩

/-- A page with no other operands and bindings holds no other nodes. -/
theorem Holds.mono {a b : Page} {x : Handle} (h : b.Holds x)
    (ho : ∀ slot ∈ b.operands.slots, ∃ old ∈ a.operands.slots, old.node = slot.node)
    (hb : ∀ id node, b.bindings.lookup? id = some node → a.bindings.lookup? id = some node) :
    a.Holds x := by
  rcases h with ⟨slot, hm, rfl⟩ | ⟨id, hl⟩
  · obtain ⟨old, hold, he⟩ := ho slot hm
    exact Or.inl ⟨old, hold, he⟩
  · exact Or.inr ⟨id, hb id x hl⟩

/-- After a push the page holds the operand and what it held. -/
theorem holds_push {page : Page} {node x : Handle}
    (h : Holds { page with operands := page.operands.push node } x) : x = node ∨ page.Holds x := by
  rcases h with ⟨slot, hm, rfl⟩ | hbound
  · rcases List.mem_cons.mp hm with rfl | hm
    · exact Or.inl rfl
    · exact Or.inr (holds_of_mem hm)
  · exact Or.inr (Or.inr hbound)

/-- After an assignment the page holds the node and what it held. -/
theorem holds_assign {page : Page} {id : NodeId} {node x : Handle}
    (h : Holds { page with bindings := page.bindings.assign id node } x) :
    x = node ∨ page.Holds x := by
  rcases h with hheld | ⟨other, hl⟩
  · exact Or.inr (Or.inl hheld)
  · replace hl : (page.bindings.assign id node).lookup? other = some x := hl
    rw [Bindings.lookup?_assign] at hl
    split at hl
    · cases hl
      exact Or.inl rfl
    · exact Or.inr (holds_of_lookup hl)

/-- What the page holds after operands are taken off it held before. -/
theorem holds_popMany {page : Page} {count : Nat} {nodes : List Handle} {operands : Operands}
    (hp : page.operands.popMany count = .ok (nodes, operands)) {x : Handle}
    (h : Holds { page with operands := operands } x) : page.Holds x := by
  obtain ⟨-, rfl⟩ := popMany_ok hp
  exact h.mono (fun slot hm => ⟨slot, List.mem_of_mem_drop hm, rfl⟩) fun _ _ hl => hl

/-- What is taken off the stack was held. -/
theorem holds_of_popMany {page : Page} {count : Nat} {nodes : List Handle} {operands : Operands}
    (hp : page.operands.popMany count = .ok (nodes, operands)) {x : Handle} (hx : x ∈ nodes) :
    page.Holds x := by
  obtain ⟨rfl, -⟩ := popMany_ok hp
  obtain ⟨slot, hs, rfl⟩ := List.mem_map.mp (List.mem_reverse.mp hx)
  exact holds_of_mem (List.mem_of_mem_take hs)

theorem holds_release {page : Page} {id : NodeId} {x : Handle} (h : (page.release id).2.Holds x) :
    page.Holds x := by
  cases hl : page.bindings.lookup? id with
  | none =>
    rw [release_of_unbound hl] at h
    exact h
  | some node =>
    rw [release_of_bound hl] at h
    refine h.mono (fun slot hm => ?_) fun other named hn => ?_
    · rw [operands_forgetAll] at hm
      exact ⟨slot, hm, rfl⟩
    · rw [bindings_forgetAll, Bindings.lookup?_unbind] at hn
      split at hn
      · cases hn
      · exact hn

/-- What the page holds after the ids below a node are released it held before. -/
theorem holds_releaseBelow {page : Page} {top x : Handle} (h : (page.releaseBelow top).Holds x) :
    page.Holds x := by
  refine h.mono (fun slot hm => ?_) fun other named hn => ?_
  · replace hm : slot ∈ (Page.forgetAll _ _).operands.slots := hm
    rw [operands_forgetAll] at hm
    exact ⟨slot, hm, rfl⟩
  · rw [bindings_releaseBelow, Bindings.unbindWhere_snd, Bindings.lookup?_unbindAll] at hn
    split at hn
    · cases hn
    · exact hn

theorem holds_markParent {page : Page} {x : Handle}
    (h : Holds { page with operands := page.operands.markParent } x) : page.Holds x := by
  refine h.mono (fun slot hm => ?_) fun _ _ hl => hl
  replace hm : slot ∈ page.operands.markParent.slots := hm
  unfold Operands.markParent at hm
  cases hs : page.operands.slots with
  | nil =>
    rw [hs] at hm
    dsimp only at hm
    rw [hs] at hm
    cases hm
  | cons first rest =>
    rw [hs] at hm
    rcases List.mem_cons.mp hm with rfl | hm
    · exact ⟨first, List.mem_cons_self, rfl⟩
    · exact ⟨slot, List.mem_cons_of_mem first hm, rfl⟩

/-- The last step of an insertion brings no node to hold and leaves the nodes alone. -/
theorem holds_finish {edit : Edit} {page : Page} {x : Handle} (h : (edit.finish page).Holds x) :
    page.Holds x := by
  unfold Edit.finish at h
  split at h
  · exact holds_markParent h
  · exact holds_release h
  · exact h

/-- What is left to do after an insertion touches no node. -/
theorem nodes_finish (edit : Edit) (page : Page) :
    (edit.finish page).document.nodes = page.document.nodes := by
  unfold Edit.finish
  split
  · rfl
  · exact nodes_release page _
  · rfl

/-- Releasing an id leaves the templates as they are. -/
theorem templates_release (page : Page) (id : NodeId) :
    (page.release id).2.templates = page.templates := by
  cases hl : page.bindings.lookup? id with
  | none => rw [release_of_unbound hl]
  | some node =>
    rw [release_of_bound hl]
    exact templates_forgetAll _ _

theorem templates_finish (edit : Edit) (page : Page) :
    (edit.finish page).templates = page.templates := by
  unfold Edit.finish
  split
  · rfl
  · exact templates_release page _
  · rfl

/-! ## Guarded templates -/

/-- A template is registered, its tree is as it was in `origin`, and nothing that the page
holds is in the tree or a child of its nodes. -/
structure Guards (origin : Document) (name : String) (template : Template) (page : Page) :
    Prop where
  tree : page.document.Treelike
  spares : Spares (origin.Below template.fragment) origin page.document
  held : ∀ x, page.Holds x → Clear (origin.Below template.fragment) page.document x
  entry : Keyed.get? page.templates.entries name = some template

namespace Guards

variable {origin : Document} {name : String} {template : Template} {page : Page}

/-- A node that no template owns is clear of this one. -/
theorem clear_of_not_owns (h : Guards origin name template page) {x : Handle}
    (hx : page.templates.owns page.document x = false) :
    Clear (origin.Below template.fragment) page.document x := by
  have hentry := Keyed.mem_of_get? h.entry
  have howned : template.fragment = x ∨ page.document.Above x template.fragment → False := by
    intro hu
    have hm : template.fragment ∈ x :: page.document.ancestors x := by
      rw [List.mem_cons, h.tree.mem_ancestors_iff]
      exact hu
    have howns : page.templates.owns page.document x = true := by
      unfold Templates.owns
      rw [List.any_eq_true]
      refine ⟨template.fragment, hm, List.any_eq_true.mpr ⟨(name, template), hentry, ?_⟩⟩
      exact decide_eq_true rfl
    rw [hx] at howns
    cases howns
  have habove : ∀ y, origin.Below template.fragment y →
      y = template.fragment ∨ page.document.Above y template.fragment :=
    fun y hy => (h.spares.below hy).above h.tree
  constructor
  · intro hr
    rcases habove x hr with he | hu
    · exact howned (Or.inl he.symm)
    · exact howned (Or.inr hu)
  · intro p hp hr
    rcases habove p hr with rfl | hu
    · exact howned (Or.inr (.parent hp))
    · exact howned (Or.inr (.step hp hu))

/-- What the stack leads to is clear of the template. -/
theorem clear_of_leads (h : Guards origin name template page) {path : List Nat} {x : Handle}
    (hx : page.Leads path x) : Clear (origin.Below template.fragment) page.document x := by
  obtain ⟨slot, rest, hs, hp⟩ := hx
  have hslot : slot ∈ page.operands.slots := by
    rw [hs]
    exact List.mem_cons_self
  exact h.spares.closed.clear_atPath h.tree (h.held _ (holds_of_mem hslot)) hp

/-- A page that leaves the tree of the template alone and holds no node but clear ones. -/
theorem step (h : Guards origin name template page) {next : Page}
    (ht : next.document.Treelike)
    (hs : Spares (origin.Below template.fragment) page.document next.document)
    (hh : ∀ x, next.Holds x →
      page.Holds x ∨ Clear (origin.Below template.fragment) next.document x)
    (he : next.templates = page.templates) :
    Guards origin name template next where
  tree := ht
  spares := h.spares.trans hs
  held x hx := by
    rcases hh x hx with hold | hclear
    · exact hs.clear (h.held x hold)
    · exact hclear
  entry := by rw [he, h.entry]

/-- A page with the same nodes that holds no node but clear ones. -/
theorem step_of_nodes (h : Guards origin name template page) {next : Page}
    (hn : next.document.nodes = page.document.nodes)
    (hh : ∀ x, next.Holds x →
      page.Holds x ∨ Clear (origin.Below template.fragment) page.document x)
    (he : next.templates = page.templates) :
    Guards origin name template next := by
  have hs := spares_of_nodes h.spares.closed hn
  apply h.step ((alike_of_nodes hn).treelike h.tree) hs _ he
  intro x hx
  rcases hh x hx with hold | hclear
  · exact Or.inl hold
  · exact Or.inr (hs.clear hclear)

/-- Operands are taken off the stack. -/
theorem popped (h : Guards origin name template page) {count : Nat} {nodes : List Handle}
    {operands : Operands} (hp : page.operands.popMany count = .ok (nodes, operands)) :
    Guards origin name template { page with operands := operands } :=
  h.step_of_nodes rfl (fun _ hx => Or.inl (holds_popMany hp hx)) rfl

/-- Nodes that are held are inserted at a place that is clear of the template. -/
theorem spares_insert (h : Guards origin name template page) {edit : Edit} {count : Nat}
    {nodes : List Handle} {operands : Operands} {change : List Handle → Change Unit}
    (hp : page.operands.popMany count = .ok (nodes, operands))
    (hplace : Places { page with operands := operands } edit count change) :
    Leaves (origin.Below template.fragment) (change nodes) page.document := by
  have hclosed := h.spares.closed
  have hnodes : ∀ x ∈ nodes, Clear (origin.Below template.fragment) page.document x :=
    fun x hx => h.held x (holds_of_popMany hp hx)
  have hpopped := h.popped hp
  cases hplace with
  | append _ hlead =>
    exact leaves_appendChildren hclosed h.tree (hpopped.clear_of_leads hlead).1 hnodes
  | replace id _ hl =>
    exact leaves_replaceWith hclosed h.tree (h.held _ (holds_of_lookup hl)) hnodes
  | after id _ hl =>
    exact leaves_insertAfter hclosed h.tree (h.held _ (holds_of_lookup hl)) hnodes
  | before id _ hl =>
    exact leaves_insertBefore hclosed h.tree (h.held _ (holds_of_lookup hl)) hnodes
  | placeholder path _ hlead =>
    exact leaves_replaceWith hclosed h.tree (hpopped.clear_of_leads hlead) hnodes

end Guards

/-- Putting operands in a place ends in one of the ways of an insertion. -/
theorem Places.insertion {page : Page} {edit : Edit} {count : Nat}
    {change : List Handle → Change Unit} (hplace : Places page edit count change)
    {doc : Document} (ht : doc.Treelike) (nodes : List Handle) :
    Insertion doc nodes (change nodes doc) := by
  cases hplace with
  | append _ _ => exact insertion_appendChildren doc _ nodes
  | replace _ _ _ => exact insertion_replaceWith ht _ nodes
  | after _ _ _ => exact insertion_insertAfter ht _ nodes
  | before _ _ _ => exact insertion_insertBefore ht _ nodes
  | placeholder _ _ _ => exact insertion_replaceWith ht _ nodes

namespace Guards

variable {origin : Document} {name : String} {template : Template} {page : Page}

/-- Whatever becomes of an insertion of operands. -/
theorem insert (h : Guards origin name template page) {edit : Edit} {count : Nat}
    {nodes : List Handle} {operands : Operands} {change : List Handle → Change Unit}
    (hp : page.operands.popMany count = .ok (nodes, operands))
    (hplace : Places { page with operands := operands } edit count change) :
    Guards origin name template
      { page with operands := operands, document := left (change nodes page.document) } :=
  h.step ((hplace.insertion h.tree nodes).treelike h.tree) (h.spares_insert hp hplace)
    (fun _ hx => Or.inl (holds_popMany hp hx)) rfl

/-- The nodes of another template are gathered from those that the page holds. -/
theorem gather (h : Guards origin name template page) {count : Nat} {nodes : List Handle}
    {operands : Operands} (hp : page.operands.popMany count = .ok (nodes, operands)) :
    Guards origin name template
      { page with
        operands := operands
        document := left (appendChildren page.document.size nodes page.withFragment) } := by
  have hclosed := h.spares.closed
  have hmade : Spares (origin.Below template.fragment) page.document page.withFragment :=
    spares_push hclosed .fragment false nofun
  have ht : page.withFragment.Treelike := (advances_create h.tree .fragment).treelike
  have hfresh : ¬ origin.Below template.fragment page.document.size :=
    fun hr => Nat.lt_irrefl _ (hclosed.exist _ hr)
  have hnodes : ∀ x ∈ nodes, Clear (origin.Below template.fragment) page.withFragment x :=
    fun x hx => hmade.clear (h.held x (holds_of_popMany hp hx))
  have hmoved := leaves_appendChildren hmade.closed ht hfresh hnodes
  exact h.step ((insertion_appendChildren _ _ nodes).treelike ht) (hmade.trans hmoved)
    (fun x hx => Or.inl (holds_popMany hp hx)) rfl

/-- A page that has gathered operands for another template is still guarded. -/
theorem gathered (h : Guards origin name template page) {count : Nat} {nodes : List Handle}
    {operands : Operands} {doc : Document}
    (hp : page.operands.popMany count = .ok (nodes, operands))
    (hc : appendChildren page.document.size nodes page.withFragment = .ok () doc) :
    Guards origin name template (page.gathered operands doc) := by
  have hmoved := h.gather hp
  rw [hc] at hmoved
  exact hmoved.step_of_nodes (nodes_forgetAll _ _) (fun x hx => Or.inl (holds_releaseBelow hx))
    (templates_forgetAll _ _)

/-- A node that an id names is taken off the page after the id is released. -/
theorem remove (h : Guards origin name template page) {id : NodeId} {node : Handle}
    (hl : page.bindings.lookup? id = some node) :
    Guards origin name template
      { (page.release id).2 with
        document := left (detach node (page.release id).2.document) } := by
  have hsame := spares_of_nodes h.spares.closed (nodes_release page id)
  have hreleased : Guards origin name template (page.release id).2 :=
    h.step_of_nodes (nodes_release page id) (fun x hx => Or.inl (holds_release hx))
      (templates_release page id)
  have hclear := hsame.clear (h.held node (holds_of_lookup hl))
  exact hreleased.step (advances_detach hreleased.tree node).treelike
    (leaves_detach hreleased.spares.closed hclear) (fun _ hx => Or.inl hx) rfl

/-- A node is made. -/
theorem made (h : Guards origin name template page) {node : Handle} {doc : Document}
    (hmade : page.document.Makes node doc) :
    Guards origin name template { page with document := doc } ∧
      Clear (origin.Below template.fragment) doc node := by
  obtain ⟨hs, hclear⟩ := hmade.spares h.spares.closed h.tree
  exact ⟨h.step (hmade.treelike h.tree) hs (fun _ hx => Or.inl hx) rfl, hclear⟩

/-- An id is assigned to a node that is clear of the template. -/
theorem assigned (h : Guards origin name template page) (id : NodeId) {node : Handle}
    (hclear : Clear (origin.Below template.fragment) page.document node) :
    Guards origin name template { page with bindings := page.bindings.assign id node } := by
  refine h.step_of_nodes rfl (fun x hx => ?_) rfl
  rcases holds_assign hx with rfl | hx
  · exact Or.inr hclear
  · exact Or.inl hx

/-- An id is moved to a node that is clear of the template. -/
theorem rebound (h : Guards origin name template page) {id : NodeId} {node previous : Handle}
    {table : Bindings} (hr : page.bindings.rebind id node = .ok (previous, table))
    (hclear : Clear (origin.Below template.fragment) page.document node) :
    Guards origin name template { page with bindings := table } := by
  refine h.step_of_nodes rfl (fun x hx => ?_) rfl
  rcases hx with hheld | ⟨other, hl⟩
  · exact Or.inl (Or.inl hheld)
  · replace hl : table.lookup? other = some x := hl
    rw [Bindings.lookup?_rebind hr] at hl
    split at hl
    · cases hl
      exact Or.inr hclear
    · exact Or.inl (holds_of_lookup hl)

/-- A node that is clear of the template is put on the stack. -/
theorem pushed (h : Guards origin name template page) {node : Handle}
    (hclear : Clear (origin.Below template.fragment) page.document node) :
    Guards origin name template { page with operands := page.operands.push node } := by
  refine h.step_of_nodes rfl (fun x hx => ?_) rfl
  rcases holds_push hx with rfl | hx
  · exact Or.inr hclear
  · exact Or.inl hx

/-- A node that the page holds is rewritten. -/
theorem rewritten (h : Guards origin name template page) {node : Handle} {doc : Document}
    (hheld : page.Holds node) (hw : page.document.Rewrites node doc) :
    Guards origin name template { page with document := doc } :=
  h.step (hw.treelike h.tree) (hw.spares h.spares.closed h.tree (h.held _ hheld).1)
    (fun _ hx => Or.inl hx) rfl

/-- A template is registered under a name that was free, which is another than that of the guarded
one. -/
theorem registered (h : Guards origin name template page) {count : Nat} {nodes : List Handle}
    {operands : Operands} {doc : Document}
    (hp : page.operands.popMany count = .ok (nodes, operands))
    (hc : appendChildren page.document.size nodes page.withFragment = .ok () doc)
    {other : String} (hfree : Keyed.get? page.templates.entries other = none) (fresh : Template) :
    Guards origin name template
      { page.gathered operands doc with
        templates := ⟨Keyed.set page.templates.entries other fresh⟩ } := by
  have hgathered := h.gathered hp hc
  have hne : other ≠ name := by
    rintro rfl
    rw [h.entry] at hfree
    cases hfree
  refine ⟨hgathered.tree, hgathered.spares, hgathered.held, ?_⟩
  show Keyed.get? (Keyed.set page.templates.entries other fresh) name = some template
  rw [Keyed.get?_set, if_neg hne, h.entry]

/-- Every edit, carried out or not, leaves a guarded template guarded. -/
theorem apply (h : Guards origin name template page) (edit : Edit) :
    Guards origin name template (left (Page.apply edit page)) := by
  have hends := ends_apply page edit
  generalize Page.apply edit page = result at hends
  cases hends with
  | refused _ e _ => exact h
  | unnamed _ hmade _ => exact (h.made hmade).1
  | created _ hmade _ _ =>
    obtain ⟨hguards, hclear⟩ := h.made hmade
    exact (hguards.assigned _ hclear).pushed hclear
  | assigned path id hlead _ _ => exact h.assigned id (h.clear_of_leads hlead)
  | seeded id value howns _ _ => exact h.assigned id (h.clear_of_not_owns howns)
  | @moved node previous table id value howns hr =>
    have hrebound := h.rebound hr (h.clear_of_not_owns howns)
    show Guards origin name template (if previous = node then _ else _)
    split
    · exact hrebound
    · exact hrebound.step_of_nodes (nodes_forgetAll _ [id]) (fun _ hx => Or.inl hx) rfl
  | pushed id hl => exact h.pushed (h.held _ (holds_of_lookup hl))
  | popped hp => exact h.popped hp
  | written _ hheld hw => exact h.rewritten hheld hw
  | unplaced e _ _ hp => exact h.popped hp
  | stopped hp hplace hc =>
    have hinserted := h.insert hp hplace
    rw [hc] at hinserted
    exact hinserted
  | inserted tally hp hplace hc =>
    have hinserted := h.insert hp hplace
    rw [hc] at hinserted
    exact hinserted.step_of_nodes (nodes_finish edit _) (fun x hx => Or.inl (holds_finish hx))
      (templates_finish edit _)
  | absent id _ => exact h
  | removed id tally hl hd =>
    have hremoved := h.remove hl
    rw [hd] at hremoved
    exact hremoved
  | missing id hl hd =>
    have hremoved := h.remove hl
    rw [hd] at hremoved
    exact hremoved
  | listened event id handler _ =>
    exact h.step_of_nodes (Delegation.nodes_listen _ _ _ _ _) (fun _ hx => Or.inl hx) rfl
  | unlistened id event =>
    exact h.step_of_nodes (Delegation.nodes_unlisten _ _ _ _) (fun _ hx => Or.inl hx) rfl
  | ungathered other count hp hc =>
    have hmoved := h.gather hp
    rw [hc] at hmoved
    exact hmoved
  | taken other count hp hc _ => exact h.gathered hp hc
  | known other count hp hc _ => exact h.gathered hp hc
  | registered other count slots hp hc hfree => exact h.registered hp hc hfree _

theorem clearOperands (h : Guards origin name template page) :
    Guards origin name template page.clearOperands :=
  h.step_of_nodes rfl (fun _ hx => Or.inl (hx.mono nofun fun _ _ hl => hl)) rfl

/-! ### What is guarded stays -/

/-- The guarded template is found under its name. -/
theorem canonical (h : Guards origin name template page) :
    page.templates.canonical name = .ok template.fragment := by
  unfold Templates.canonical Templates.find
  rw [h.entry]

/-- The tree of a guarded template is the one that it had. -/
theorem tree? (h : Guards origin name template page) (ho : origin.Treelike) {tree : Tree}
    (ht : origin.tree? template.fragment = some tree) :
    page.document.tree? template.fragment = some tree := by
  rw [← shows_iff ho] at ht
  rw [← shows_iff h.tree]
  exact ht.congr (origin.Below template.fragment) (fun x hx _ => h.spares.same x hx)
    (fun p c hp hc => hp.child hc) .here tree

end Guards

end Page

end PageHost
