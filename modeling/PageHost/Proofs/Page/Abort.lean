import PageHost.Proofs.Delegation.Forget
import PageHost.Proofs.Document.Live
import PageHost.Proofs.Page.Reach
import PageHost.Proofs.Page.Upkeep
/-!
# Batches that fail

A batch that fails at an edit leaves the page as the edits before that one made it, but
for an empty stack and fresh nodes that nobody refers to. Every edit checks before it
writes, with one exception: a template under a taken name is found out after its nodes
have moved into their fragment and their ids are released. `Untouched` and `Gathers`
describe the two outcomes.

The second one rests on what is live. The moved nodes have left their places, so none
of them is live, and nothing is made when they are linked under the fresh fragment.
-/

namespace PageHost

namespace Document

variable {doc doc' : Document}

/-! ## What is left as it was -/

/-- An insertion that is refused changes nothing, as long as its anchor is listed. -/
theorem eq_of_insertion_error {nodes : List Handle} {e : DomError}
    (h : Insertion doc nodes (.error e doc')) (he : ∀ node, e ≠ .unlistedAnchor node) :
    doc' = doc := by
  cases h with
  | refused e => rfl
  | stuck anchor hm => exact absurd rfl (he anchor)

/-- A fresh fragment among the nodes does not change which nodes move. -/
theorem flatten_push (doc : Document) (content : Content) {nodes : List Handle}
    (hn : ∀ x ∈ nodes, x < doc.size) :
    (doc.push ⟨content, none, [], false⟩).flatten nodes = doc.flatten nodes := by
  induction nodes with
  | nil => rfl
  | cons x rest ih =>
    have hx : x ≠ doc.size := Nat.ne_of_lt (hn x List.mem_cons_self)
    have hkind : (doc.push ⟨content, none, [], false⟩).kindOf x = doc.kindOf x := by
      unfold kindOf
      rw [kind?_eq, content?_push, if_neg hx, ← kind?_eq]
    rw [flatten, flatten, hkind, ih fun y hy => hn y (List.mem_cons_of_mem x hy),
      children_push_nil]

/-- Nodes have moved into a fresh fragment, and nothing else about the nodes has changed. -/
structure Collects (doc : Document) (moved : List Handle) (doc' : Document) : Prop where
  size : doc'.size = doc.size + 1
  content : ∀ x, doc'.content? x = if x = doc.size then some .fragment else doc.content? x
  parent : ∀ x, doc'.parent? x = if x ∈ moved then some doc.size else doc.parent? x
  /-- A node that came twice gets its parent but no place. -/
  inside : doc'.children doc.size = moved.filter fun c => decide (moved.count c = 1)
  children : ∀ x, x ≠ doc.size →
    doc'.children x = (doc.children x).filter fun c => !decide (c ∈ moved)

/-- Collecting depends on the links only. -/
theorem Collects.alike {a b c : Document} {moved : List Handle} (h : a.Collects moved b)
    (hb : b.Alike c) : a.Collects moved c where
  size := hb.size.trans h.size
  content x := (hb.content x).trans (h.content x)
  parent x := (hb.parent x).trans (h.parent x)
  inside := (hb.children _).trans h.inside
  children x hx := (hb.children x).trans (h.children x hx)

end Document

namespace Page

/-- All live nodes stand beside a fresh fragment. -/
theorem standing_withFragment {page : Page} (h : page.document.Standing) :
    page.withFragment.Standing := Document.standing_create h .fragment

/-- Every edit, carried out or not, leaves every live node standing somewhere. -/
theorem standing_apply {page : Page} (hw : page.WellFormed) (h : page.document.Standing)
    (edit : Edit) : (left (apply edit page)).document.Standing :=
  lasting_apply Document.lasting_standing hw h edit

/-- On reached pages every live node stands somewhere. -/
theorem Reached.standing {page : Page} (hr : page.Reached) : page.document.Standing := by
  have hboth : page.WellFormed ∧ page.document.Standing := by
    refine hr.invariant (P := fun page => page.WellFormed ∧ page.document.Standing)
      (fun operations names strict => ?_) (fun page edit h => ?_) fun page h => ?_
    · refine ⟨(Reached.start operations names strict).wellFormed, ?_⟩
      exact Document.standing_of_nodes (Document.nodes_listening _ names)
        (Document.standing_afterOperations operations)
    · exact ⟨(settles_apply h.1 edit).wellFormed, standing_apply h.1 h.2 edit⟩
    · exact ⟨h.1.clearOperands, h.2⟩
  exact hboth.2

/-! ## Edits that are refused -/

/-- But for the stack the page is as it was. Nodes may have been added, and no node of the page
refers to one of them. -/
structure Untouched (page after : Page) : Prop where
  bindings : after.bindings = page.bindings
  templates : after.templates = page.templates
  delegation : after.delegation = page.delegation
  listeners : after.document.rootListeners = page.document.rootListeners
  size_le : page.document.size ≤ after.document.size
  same : ∀ x, x < page.document.size → after.document.node? x = page.document.node? x
  unreferred : ∀ x, x < page.document.size → ∀ y,
    (y ∈ after.document.children x ∨ after.document.parent? x = some y) → y < page.document.size

/-- A page is untouched whatever becomes of its operands. -/
theorem Untouched.clearOperands {page after : Page} (h : Untouched page after) :
    Untouched page after.clearOperands :=
  ⟨h.bindings, h.templates, h.delegation, h.listeners, h.size_le, h.same, h.unreferred⟩

/-- Adding nodes and keeping the old ones touches nothing. -/
theorem WellFormed.untouched {page : Page} (hw : page.WellFormed) (operands : Operands)
    {doc : Document} (hl : doc.rootListeners = page.document.rootListeners)
    (hs : page.document.size ≤ doc.size)
    (hn : ∀ x, x < page.document.size → doc.node? x = page.document.node? x) :
    Untouched page { page with operands := operands, document := doc } where
  bindings := rfl
  templates := rfl
  delegation := rfl
  listeners := hl
  size_le := hs
  same := hn
  unreferred x hx y hy := by
    rcases hy with hc | hp
    · replace hc : y ∈ doc.children x := hc
      rw [Document.children_of_node?_eq (hn x hx)] at hc
      exact hw.tree.child_lt_size hc
    · replace hp : doc.parent? x = some y := hp
      rw [Document.parent?_of_node?_eq (hn x hx)] at hp
      exact hw.tree.parent_lt_size hp

/-- An edit that fails for any other reason than a taken name touches nothing. -/
theorem untouched_of_error {page failed : Page} (hw : page.WellFormed) {edit : Edit}
    {cause : EditError} (h : apply edit page = .error cause failed)
    (hname : ∀ name, cause ≠ .templateRedefinition name)
    (hanchor : ∀ node, cause ≠ .dom (.unlistedAnchor node)) : page.Untouched failed := by
  have hends := ends_apply page edit
  rw [h] at hends
  have hsame : ∀ operands, page.Untouched { page with operands := operands } := fun operands =>
    hw.untouched operands rfl (Nat.le_refl _) fun _ _ => rfl
  cases hends with
  | refused _ _ _ => exact hsame page.operands
  | unnamed _ hmade _ =>
    obtain ⟨hl, hs, hn⟩ := hmade.frame hw.tree
    exact hw.untouched page.operands hl hs hn
  | unplaced _ _ _ _ => exact hsame _
  | @stopped _ _ _ nodes operands e _ _ hplace hc =>
    have hinsert := hplace.insertion hw.tree nodes
    rw [hc] at hinsert
    rw [Document.eq_of_insertion_error hinsert fun node he =>
      hanchor node (congrArg EditError.dom he)]
    exact hsame operands
  | @missing node _ _ id hl hd =>
    have hnodes := nodes_release page id
    have hexist : (page.release id).2.document.contains node = true := by
      rw [Document.contains_iff, (Document.alike_of_nodes hnodes).size]
      exact hw.bound id node hl
    unfold Document.detach at hd
    rw [if_pos hexist] at hd
    split at hd <;> cases hd
  | @ungathered nodes operands e _ _ _ _ hc =>
    have hinsert := Document.insertion_appendChildren page.withFragment page.document.size nodes
    rw [hc] at hinsert
    rw [Document.eq_of_insertion_error hinsert fun node he =>
      hanchor node (congrArg EditError.dom he)]
    refine hw.untouched operands rfl (Document.advances_create hw.tree .fragment).size_le ?_
    exact fun x hx => (Document.node?_push page.document _ x).trans (if_neg (Nat.ne_of_lt hx))
  | taken name _ _ _ _ => exact absurd rfl (hname name)

/-! ## A template under a taken name -/

/-- An id of the page that names a node inside of its tree `top` afterwards. -/
def Captures (page after : Page) (top : Handle) (id : NodeId) : Prop :=
  ∃ x, page.bindings.lookup? id = some x ∧ after.document.Below top x

/-- Nodes have moved into a fresh fragment, the ids of nodes inside are released with their
registrations, and nothing else has changed but the stack. -/
structure Gathers (page : Page) (moved : List Handle) (after : Page) : Prop where
  nodes : page.document.Collects moved after.document
  lookup : ∀ id x, after.bindings.lookup? id = some x ↔
    page.bindings.lookup? id = some x ∧ ¬ after.document.Below page.document.size x
  idsInside : ∀ x, after.document.Below page.document.size x → after.bindings.idsOf x = []
  idsOutside : ∀ x, ¬ after.document.Below page.document.size x →
    after.bindings.idsOf x = page.bindings.idsOf x
  templates : after.templates = page.templates
  released : ∀ id, page.Captures after page.document.size id →
    ∀ name, after.delegation.interest? id name = none
  kept : ∀ id, ¬ page.Captures after page.document.size id →
    ∀ name, after.delegation.interest? id name = page.delegation.interest? id name
  /-- An event that no released id listens for is listened for as before. -/
  quiet : ∀ name, (∀ id, page.Captures after page.document.size id →
      page.delegation.interest? id name = none) →
    after.delegation.rootCount name = page.delegation.rootCount name ∧
      (after.document.hasRootListener name = true ↔ page.document.hasRootListener name = true)
  /-- Everything about events is as when the released ids are forgotten one by one. -/
  forgotten : ∃ ids, (∀ id, id ∈ ids ↔ page.Captures after page.document.size id) ∧
    after.delegation = (page.forgetAll ids).delegation ∧
    after.document.rootListeners = (page.forgetAll ids).document.rootListeners

/-- A page has gathered nodes whatever becomes of its operands. -/
theorem Gathers.clearOperands {page after : Page} {moved : List Handle}
    (h : page.Gathers moved after) : page.Gathers moved after.clearOperands :=
  ⟨h.nodes, h.lookup, h.idsInside, h.idsOutside,
    h.templates, h.released, h.kept, h.quiet, h.forgotten⟩

/-- The nodes that are moved into the fresh fragment are not live any more, so they are linked
there and nothing is made. -/
theorem relinked_withFragment {page : Page} (hw : page.WellFormed) (h : page.document.Standing)
    {nodes moved : List Handle}
    (hm : page.withFragment.movable page.document.size nodes = .ok moved) :
    Document.Relinked (page.withFragment.unlinkAll moved) page.document.size (· ++ moved) moved
      ((page.withFragment.unlinkAll moved).link page.document.size (· ++ moved) moved) := by
  have ht := treelike_withFragment hw
  have hplace := Document.placeable_of_movable ht hm
  have hfragment : (page.withFragment.unlinkAll moved).live page.document.size = false := by
    rw [← Bool.not_eq_true]
    intro hx
    have hold : (page.document.push ⟨.fragment, none, [], false⟩).live page.document.size = true :=
      (Document.live_foldl_unlink ht hx).2
    rw [Document.live_push, if_pos rfl] at hold
    cases hold
  have hmoved : ∀ c ∈ moved, (page.withFragment.unlinkAll moved).live c = false :=
    fun c hc => Document.live_unlinkAll_of_movable (standing_withFragment h) ht hm hc
  exact (Document.relinked_of_still hplace _ hfragment hmoved).1

/-- Nodes that may be moved below a fresh fragment are collected there. -/
theorem collects_withFragment {page : Page} (hw : page.WellFormed) (h : page.document.Standing)
    {nodes moved : List Handle}
    (hm : page.withFragment.movable page.document.size nodes = .ok moved) :
    page.document.Collects moved
      ((page.withFragment.unlinkAll moved).link page.document.size (· ++ moved) moved) := by
  have hrelinked := relinked_withFragment hw h hm
  have hcut := Document.loosened_unlinkAll (treelike_withFragment hw) moved
  have hlists : ∀ x, page.withFragment.children x = page.document.children x :=
    fun x => Document.children_push_nil _ _ _ _ x
  constructor
  case size =>
    rw [hrelinked.size, hcut.size]
    exact Document.size_push _ _
  case content =>
    intro x
    rw [hrelinked.content, hcut.content]
    exact Document.content?_push _ _ _
  case parent =>
    intro x
    have hmade : page.withFragment.parent? x = page.document.parent? x := by
      show (page.document.push _).parent? x = _
      rw [Document.parent?_push]
      split
      · rename_i hx
        rw [Document.parent?_of_size_le (Nat.le_of_eq hx.symm)]
      · rfl
    rw [hrelinked.parent, hcut.parent, hmade]
    split
    · rfl
    · rfl
  case inside =>
    rw [hrelinked.children, if_pos rfl, hcut.children, hlists,
      Document.children_of_size_le (Nat.le_refl _)]
    apply List.filter_congr
    intro c hc
    have hpos : 0 < moved.count c := List.count_pos_iff.mpr hc
    rw [← decide_not]
    exact decide_eq_decide.mpr (by omega)
  case children =>
    intro x hx
    rw [hrelinked.children, if_neg (Ne.symm hx), hcut.children, hlists]

/-- A fresh fragment does not change what the operands flatten to. -/
theorem flatten_of_movable_withFragment {page : Page} (hw : page.WellFormed) {count : Nat}
    {nodes moved : List Handle} {operands : Operands}
    (hp : page.operands.popMany count = .ok (nodes, operands))
    (hm : page.withFragment.movable page.document.size nodes = .ok moved) :
    page.document.flatten nodes = .ok moved := by
  rw [← Document.flatten_push page.document .fragment]
  · exact ((Document.movable_ok_iff _ _ _ _).mp hm).2.1
  · intro x hx
    obtain ⟨rfl, -⟩ := popMany_ok hp
    rw [List.mem_reverse] at hx
    obtain ⟨slot, hslot, rfl⟩ := List.mem_map.mp hx
    exact hw.stacked slot (List.mem_of_mem_take hslot)

/-- The ids below a node are released by forgetting them, as far as registrations and root
listeners are concerned. -/
theorem delegation_gathered {page : Page} (operands : Operands) {doc : Document}
    (hl : doc.rootListeners = page.document.rootListeners) :
    let ids := (page.bindings.unbindWhere (doc.descendants page.document.size).contains).1
    (page.gathered operands doc).delegation = (page.forgetAll ids).delegation ∧
      (page.gathered operands doc).document.rootListeners =
        (page.forgetAll ids).document.rootListeners := by
  intro ids
  let released : Page := { page with
    operands := operands
    document := doc
    bindings := (page.bindings.unbindWhere (doc.descendants page.document.size).contains).2 }
  exact forgetAll_congr (a := page) (b := released) rfl hl ids

/-- What is left of a page when its operands have moved into a fresh fragment and the ids inside
are released. -/
theorem gathers_gathered {page : Page} (hw : page.WellFormed) (hs : page.bindings.Sound)
    (h : page.document.Standing) {count : Nat} {nodes : List Handle} {operands : Operands}
    {doc : Document} (hp : page.operands.popMany count = .ok (nodes, operands))
    (hc : Document.appendChildren page.document.size nodes page.withFragment = .ok () doc) :
    ∃ moved, page.document.flatten nodes = .ok moved ∧
      page.Gathers moved (page.gathered operands doc) := by
  have hinsert := Document.insertion_appendChildren page.withFragment page.document.size nodes
  rw [hc] at hinsert
  have htree : doc.Treelike := hinsert.treelike (treelike_withFragment hw)
  obtain ⟨moved, hm, hdoc⟩ := Document.appendChildren_ok hc
  have hcollects : page.document.Collects moved doc := hdoc ▸ collects_withFragment hw h hm
  let after := page.gathered operands doc
  let inside : Handle → Bool := (doc.descendants page.document.size).contains
  let ids := (page.bindings.unbindWhere inside).1
  have halike : doc.Alike after.document := Document.alike_of_nodes (nodes_forgetAll _ _)
  have hexist : page.document.size < doc.size := by
    rw [hcollects.size]
    exact Nat.lt_succ_self _
  have hbelow : ∀ x, inside x = true ↔ after.document.Below page.document.size x := by
    intro x
    show (doc.descendants page.document.size).contains x = true ↔ _
    rw [List.contains_iff_mem, Document.mem_descendants_iff htree hexist]
    exact ⟨halike.below, halike.symm.below⟩
  have hbindings : after.bindings = (page.bindings.unbindWhere inside).2 :=
    bindings_releaseBelow _ _
  have hids : ∀ id, id ∈ ids ↔ page.Captures after page.document.size id := by
    intro id
    rw [Bindings.mem_unbindWhere_iff hs]
    exact exists_congr fun x => and_congr_right fun _ => hbelow x
  have hlisteners : doc.rootListeners = page.document.rootListeners := by
    rw [hdoc, Document.rootListeners_link, Document.rootListeners_unlinkAll]
    rfl
  have hforgotten := delegation_gathered operands hlisteners
  refine ⟨moved, flatten_of_movable_withFragment hw hp hm, ?_⟩
  constructor
  case nodes => exact hcollects.alike halike
  case lookup =>
    intro id x
    rw [hbindings, Bindings.lookup?_unbindWhere hs, Option.filter_eq_some_iff, ← hbelow]
    simp
  case idsInside =>
    intro x hx
    rw [hbindings, Bindings.idsOf_unbindWhere hs, if_pos ((hbelow x).mpr hx)]
  case idsOutside =>
    intro x hx
    rw [hbindings, Bindings.idsOf_unbindWhere hs, if_neg fun hin => hx ((hbelow x).mp hin)]
  case templates => exact templates_forgetAll _ _
  case released =>
    intro id hid name
    rw [hforgotten.1, interest?_forgetAll, if_pos ((hids id).mpr hid)]
  case kept =>
    intro id hid name
    rw [hforgotten.1, interest?_forgetAll, if_neg fun hm => hid ((hids id).mp hm)]
  case quiet =>
    intro name hquiet
    have hlistener : after.document.hasRootListener name =
        (page.forgetAll ids).document.hasRootListener name := by
      rw [Document.hasRootListener, hforgotten.2, Document.hasRootListener]
    rw [hforgotten.1, hlistener]
    exact forgetAll_other fun id hm => hquiet id ((hids id).mp hm)
  case forgotten => exact ⟨ids, hids, hforgotten⟩

/-- Only a template under a taken name fails for that reason, and it has been gathered. -/
theorem gathers_of_error {page failed : Page} (hw : page.WellFormed) (hs : page.bindings.Sound)
    (h : page.document.Standing) {edit : Edit} {name : String}
    (hrun : apply edit page = .error (.templateRedefinition name) failed) :
    ∃ count nodes operands moved, edit = .saveTemplate name count ∧
      page.operands.popMany count = .ok (nodes, operands) ∧
      page.document.flatten nodes = .ok moved ∧ page.Gathers moved failed := by
  have hends := ends_apply page edit
  rw [hrun] at hends
  cases hends with
  | refused _ _ hne => exact absurd rfl (hne name)
  | unnamed _ _ hb => exact absurd rfl (bind_error_ne hb name)
  | unplaced _ hne _ _ => exact absurd rfl (hne name)
  | taken _ count hp hc _ =>
    obtain ⟨moved, hflat, hgathers⟩ := gathers_gathered hw hs h hp hc
    exact ⟨count, _, _, moved, rfl, hp, hflat, hgathers⟩

/-! ## Failing batches -/

/-- A batch on a reached page that fails at one of its edits: the edits before it have been
carried out, the stack is empty, and the failing edit has touched nothing, unless it saves a
template under a taken name. An anchor that its parent does not list is no refusal: there the
page stops for good. -/
theorem failed_batch_keeps_prefix {page after : Page} (hr : page.Reached) {edits : List Edit}
    {e : BatchError} (h : applyBatch edits page = .error e after)
    (hend : ∀ depth, e.cause ≠ .residualStack depth)
    (hanchor : ∀ node, e.cause ≠ .dom (.unlistedAnchor node)) :
    ∃ done reached edit, applyEach (edits.take e.index) page = .ok done reached ∧
      edits[e.index]? = some edit ∧ e.opcode = edit.opcode ∧ after.operands.slots = [] ∧
      ((∀ name, e.cause ≠ .templateRedefinition name) → reached.Untouched after) ∧
      ∀ name, e.cause = .templateRedefinition name →
        ∃ count nodes operands moved, edit = .saveTemplate name count ∧
          reached.operands.popMany count = .ok (nodes, operands) ∧
          reached.document.flatten nodes = .ok moved ∧ reached.Gathers moved after := by
  rcases applyFrom_error h with ⟨k, edit, done, reached, cause, failed, hk, hdone, hbad, rfl, rfl⟩ |
    ⟨depth, hdepth⟩
  · have hw : reached.WellFormed := hr.wellFormed.applyEach hdone
    have hs : reached.bindings.Sound :=
      applyEach_invariant (P := fun page => page.bindings.Sound)
        (fun _ edit hs => sound_apply hs edit) hdone hr.sound
    have hstands : reached.WellFormed ∧ reached.document.Standing :=
      applyEach_invariant (P := fun page => page.WellFormed ∧ page.document.Standing)
        (fun _ edit h => ⟨(settles_apply h.1 edit).wellFormed, standing_apply h.1 h.2 edit⟩)
        hdone ⟨hr.wellFormed, hr.standing⟩
    rw [Nat.zero_add]
    refine ⟨done, reached, edit, hdone, hk, rfl, rfl, fun hname => ?_, ?_⟩
    · exact (untouched_of_error hw hbad hname hanchor).clearOperands
    · rintro name rfl
      obtain ⟨count, nodes, operands, moved, hedit, hp, hflat, hgathers⟩ :=
        gathers_of_error hw hs hstands.2 hbad
      exact ⟨count, nodes, operands, moved, hedit, hp, hflat, hgathers.clearOperands⟩
  · exact absurd hdepth (hend depth)

/-- The second template of one name is another one: its element is in a fresh fragment, and
its id is free again. -/
theorem failed_batch_keeps_prefix_card :
    let page := ofDocument .blank true
    let edits : List Edit := [.createElement "p" 1, .saveTemplate "card" 1,
      .createElement "q" 2, .saveTemplate "card" 1]
    let after := left (applyBatch edits page)
    applyBatch edits page = .error ⟨3, "save_template", .templateRedefinition "card"⟩ after ∧
      ∃ done reached moved, applyEach (edits.take 3) page = .ok done reached ∧
        reached.Gathers moved after ∧ after.operands.slots = [] := by
  intro page edits after
  have hrun : applyBatch edits page =
      .error ⟨3, "save_template", .templateRedefinition "card"⟩ after :=
    eq_error_of_failure (by decide +kernel)
  have hstart : page.Reached := .start [] [] true
  obtain ⟨done, reached, edit, hdone, -, -, hslots, -, htaken⟩ :=
    failed_batch_keeps_prefix hstart hrun (fun _ => nofun) fun _ => nofun
  obtain ⟨_, _, _, moved, -, -, -, hgathers⟩ := htaken "card" rfl
  exact ⟨hrun, done, reached, moved, hdone, hgathers, hslots⟩

end Page

end PageHost
