import Mathlib.Data.List.TakeWhile
import PageHost.Proofs.Page.Guard
/-!
# Templates that stay as they are

Saving a template releases the ids of the nodes that it takes, but an operand that
was pushed twice stays on the stack once. `Exposes` says that the page still holds
such a node, or a child that a node of the template has lost. Where it does, one
more batch rewrites the template. Where it does not, the template is guarded from
then on, whatever edits follow, and every use of it gives the same tree.
-/

namespace PageHost

namespace Document

/-! ## Appending -/

/-- The parent that gets children keeps its own parent. -/
theorem parent?_appendChildren_self {doc doc' : Document} (ht : doc.Treelike) {parent : Handle}
    {nodes : List Handle} (h : appendChildren parent nodes doc = .ok () doc') :
    doc'.parent? parent = doc.parent? parent := by
  obtain ⟨moved, hm, rfl⟩ := appendChildren_ok h
  have hplace := placeable_of_movable ht hm
  have hl := loosened_unlinkAll ht moved
  have hnot : parent ∉ moved := fun hp => (hplace.free parent hp).1 rfl
  obtain ⟨b, hb, hg⟩ := exists_relinked hplace (· ++ moved)
  obtain ⟨kind, hk, -⟩ := hplace.container
  have hs : parent < b.size := by
    rw [hb.size]
    exact lt_size_of_kind? hk
  rw [hg.parent?_eq hs, hb.parent, if_neg hnot, hl.parent, if_neg hnot]

/-- Putting a parentless node at the end of a list makes that list longer, and no other list
loses its beginning. -/
theorem lists_link_last {doc : Document} {parent node : Handle}
    (h : doc.Placeable parent [node]) :
    (∀ x, doc.children x <+: (doc.link parent (· ++ [node]) [node]).children x) ∧
      (doc.children parent).length <
        ((doc.link parent (· ++ [node]) [node]).children parent).length := by
  obtain ⟨b, hb, hg⟩ := exists_relinked h (· ++ [node])
  have honce : ∀ c, ¬ 2 ≤ [node].count c := by
    intro c
    have hle := List.count_le_length (a := c) (l := [node])
    rw [List.length_singleton] at hle
    omega
  have hlists : ∀ x, b.children x =
      if parent = x then doc.children x ++ [node] else doc.children x := by
    intro x
    rw [hb.children]
    split
    · exact List.filter_eq_self.mpr fun c _ => by simpa using honce c
    · rfl
  constructor
  · intro x
    obtain ⟨fresh, he, -⟩ := hg.children_eq_append x
    rw [he, hlists]
    split
    · rw [List.append_assoc]
      exact List.prefix_append _ _
    · exact List.prefix_append _ _
  · obtain ⟨fresh, he, -⟩ := hg.children_eq_append parent
    rw [he, hlists, if_pos rfl, List.length_append, List.length_append, List.length_singleton]
    omega

/-- A node after an unlisted one goes to the end of the list. -/
theorem insertAfter_of_not_mem {doc : Document} {parent reference node : Handle}
    (hp : doc.parent? reference = some parent) (hlist : reference ∉ doc.children parent)
    (hne : reference ≠ node) (hnode : doc.parent? node = none)
    (hm : doc.movable parent [node] = .ok [node]) :
    insertAfter reference [node] doc = .ok () (doc.link parent (· ++ [node]) [node]) := by
  have hanchor : doc.anchorParent reference [node] = .ok parent := by
    have hexist : doc.contains reference = true :=
      (contains_iff doc reference).mpr (lt_size_of_parent? hp)
    have hnot : reference ∉ [node] := fun h => hne (List.mem_singleton.mp h)
    unfold anchorParent
    rw [if_pos hexist, hp]
    exact if_neg hnot
  have hstay : doc.unlinkAll [node] = doc := by
    unfold unlinkAll
    simp [hnode]
  have hnext : doc.nextSibling? parent reference = none := by
    unfold nextSibling?
    have hdrop : (doc.children parent).dropWhile (fun c => !decide (c = reference)) = [] := by
      rw [List.dropWhile_eq_nil_iff]
      intro c hc
      have hcr : c ≠ reference := by
        rintro rfl
        exact hlist hc
      simpa using hcr
    rw [hdrop]
    rfl
  have hget : (get : Change Document) doc = .ok doc doc := rfl
  unfold insertAfter
  rw [run_bind_of_ok (check_of_ok hanchor), run_bind_of_ok (prepare_of_ok hm), hstay,
    run_bind_of_ok hget]
  generalize doc.nextSibling? parent reference = next at hnext
  rw [hnext]
  rfl

/-- A fresh node that is neither a document nor a fragment may move under any container. -/
theorem movable_fresh {doc : Document} (ht : doc.Treelike) {content : Content}
    (hd : content.kind ≠ .document) (hf : content.kind ≠ .fragment) {parent : Handle} {kind : Kind}
    (hk : doc.kind? parent = some kind) (hholds : kind.holdsChildren) :
    (doc.create content).2.movable parent [doc.size] = .ok [doc.size] := by
  have hps : parent < doc.size := lt_size_of_kind? hk
  have hkind : ∀ x, (doc.create content).2.kind? x =
      if x = doc.size then some content.kind else doc.kind? x := by
    intro x
    show (doc.push _).kind? x = _
    rw [kind?_eq, content?_push]
    split
    · rfl
    · rw [kind?_eq]
  have hkp : (doc.create content).2.kind? parent = some kind := by
    rw [hkind, if_neg (Nat.ne_of_lt hps), hk]
  have hkn : (doc.create content).2.kind? doc.size = some content.kind := by
    rw [hkind, if_pos rfl]
  have hmade : (doc.create content).2.Treelike := (advances_create ht content).treelike
  have habove : doc.size ∉ (doc.create content).2.ancestors parent := by
    rw [hmade.mem_ancestors_iff]
    refine not_above_of_childless fun x hx => ?_
    replace hx : (doc.push _).parent? x = some doc.size := hx
    rw [parent?_push] at hx
    split at hx
    · cases hx
    · exact Nat.lt_irrefl _ (ht.parent_lt_size hx)
  apply movable_of_inner hkp hholds
  · intro c hc
    rw [List.mem_singleton.mp hc]
    exact ⟨content.kind, hkn, hd, hf⟩
  · intro c hc
    rw [List.mem_singleton.mp hc]
    exact ⟨(Nat.ne_of_lt hps).symm, habove⟩

/-- A fresh placeholder that is put after an unlisted node goes to the end of the list of that
node's parent, and no other list loses a node. -/
theorem exists_insertAfter_unlisted {doc : Document} (ht : doc.Treelike) {parent x : Handle}
    (hx : doc.parent? x = some parent) (hc : x ∉ doc.children parent) :
    ∃ after, insertAfter x [doc.size] (doc.create .placeholder).2 = .ok () after ∧
      after.Treelike ∧ (∀ y, doc.children y <+: after.children y) ∧
      (doc.children parent).length < (after.children parent).length := by
  obtain ⟨kind, hk, hholds⟩ := ht.holder x parent hx
  let made := (doc.create .placeholder).2
  have htm : made.Treelike := (advances_create ht .placeholder).treelike
  have hlists : ∀ y, made.children y = doc.children y :=
    fun y => children_push_nil doc .placeholder none false y
  have hnode : made.parent? doc.size = none := by
    show (doc.push _).parent? doc.size = none
    rw [parent?_push, if_pos rfl]
  have hne : x ≠ doc.size := Nat.ne_of_lt (lt_size_of_parent? hx)
  have hxp : made.parent? x = some parent := by
    show (doc.push _).parent? x = some parent
    rw [parent?_push, if_neg hne, hx]
  have hd : Content.placeholder.kind ≠ .document := nofun
  have hf : Content.placeholder.kind ≠ .fragment := nofun
  have hmove : made.movable parent [doc.size] = .ok [doc.size] := movable_fresh ht hd hf hk hholds
  have hplace : made.Placeable parent [doc.size] := by
    have hunlinked := placeable_of_movable htm hmove
    have hstay : made.unlinkAll [doc.size] = made := by
      unfold unlinkAll
      simp [hnode]
    rwa [hstay] at hunlinked
  have hunlisted : x ∉ made.children parent := by
    rw [hlists]
    exact hc
  obtain ⟨hstarts, hlonger⟩ := lists_link_last hplace
  refine ⟨made.link parent (· ++ [doc.size]) [doc.size],
    insertAfter_of_not_mem hxp hunlisted hne hnode hmove,
    treelike_link htm hplace (List.Perm.refl _), fun y => ?_, ?_⟩
  · rw [← hlists]
    exact hstarts y
  · rw [← hlists]
    exact hlonger

end Document

namespace Page

open Document

/-- The page holds a node of the tree at `top`, or a node whose parent is in that tree. -/
def Exposes (page : Page) (top : Handle) : Prop :=
  ∃ x, page.Holds x ∧ (page.document.Below top x ∨
    ∃ p, page.document.parent? x = some p ∧ page.document.Below top p)

/-! ## Naming what the page holds -/

/-- There is always a free id. -/
theorem exists_free (table : Bindings) : ∃ id, id ≠ reservedId ∧ table.lookup? id = none := by
  obtain ⟨bound, hbound⟩ : ∃ bound, ∀ id ∈ table.nodes.map Prod.fst, id ≤ bound := by
    induction table.nodes.map Prod.fst with
    | nil => exact ⟨0, nofun⟩
    | cons id rest ih =>
      obtain ⟨bound, hbound⟩ := ih
      refine ⟨id + bound, fun other ho => ?_⟩
      rcases List.mem_cons.mp ho with rfl | ho
      · exact Nat.le_add_right _ _
      · exact Nat.le_trans (hbound other ho) (Nat.le_add_left _ _)
  refine ⟨bound + 1, Nat.succ_ne_zero bound, ?_⟩
  rw [Bindings.lookup?, ← Option.not_isSome_iff_eq_none, ← Keyed.mem_keys_iff]
  exact fun hm => Nat.not_succ_le_self bound (hbound _ hm)

/-- The stack can be popped down to any of its entries. -/
theorem applyEach_popRoot (pre : List Operand) {page : Page} {rest : List Operand}
    (hs : page.operands.slots = pre ++ rest) :
    ∃ tally popped, applyEach (pre.map fun _ => .popRoot) page = .ok tally popped ∧
      popped.document = page.document ∧ popped.bindings = page.bindings ∧
      popped.operands.slots = rest := by
  induction pre generalizing page with
  | nil => exact ⟨.zero, page, rfl, rfl, rfl, hs⟩
  | cons slot more ih =>
    have hone := apply_popRoot hs
    let next : Page := { page with operands := { page.operands with slots := more ++ rest } }
    have hnext : next.operands.slots = more ++ rest := rfl
    obtain ⟨tally, popped, hrest, hdoc, hbind, hslots⟩ := ih hnext
    exact ⟨_, popped, applyEach_cons hone hrest, hdoc, hbind, hslots⟩

/-- A free id is assigned to the node that the path leads to. -/
theorem apply_assignId {page : Page} {path : List Nat} {node : Handle}
    (hlead : page.Leads path node) {id : NodeId} (hid : id ≠ reservedId)
    (hfree : page.bindings.lookup? id = none) :
    apply (.assignId path id) page =
      .ok .plain { page with bindings := page.bindings.assign id node } := by
  obtain ⟨slot, rest, hs, hp⟩ := hlead
  have hfound := atPath_of_top (top_of_slots hs) path
  rw [hp] at hfound
  have hbind := bind_of_free page hid hfree node
  exact (run_bind_of_ok hfound _).trans (run_bind_of_ok hbind _)

/-- The node on top of the stack is taken off and inserted after the node that an id names. -/
theorem apply_insertAfter {page : Page} {slot : Operand} {rest : List Operand}
    (hs : page.operands.slots = slot :: rest) {id : NodeId} {x : Handle}
    (hl : page.bindings.lookup? id = some x) {doc : Document}
    (hc : insertAfter x [slot.node] page.document = .ok () doc) :
    apply (.insertAfter id 1) page = .ok .plain
      { page with operands := { page.operands with slots := rest }, document := doc } := by
  have hpop : page.operands.popMany 1 =
      .ok ([slot.node], { page.operands with slots := rest }) := by
    unfold Operands.popMany Operands.size
    rw [hs]
    rfl
  let popped : Page := { page with operands := { page.operands with slots := rest } }
  have hfound : popped.bindings.lookup? id = some x := hl
  have hlookup : lookup id popped = .ok x popped := by
    unfold lookup Bindings.lookup
    rw [hfound]
  have hlast : (onDocument (insertAfter x [slot.node]) >>= fun _ => pure .plain : Step Tally)
      popped = .ok .plain { popped with document := doc } :=
    run_bind_of_ok (onDocument_of_ok popped hc) _
  exact (run_bind_of_ok (popMany_of_ok hpop) _).trans ((run_bind_of_ok hlookup _).trans hlast)

/-- Whatever the page holds can be given an id without touching the document. -/
theorem exists_named {page : Page} {x : Handle} (hx : page.Holds x) :
    ∃ edits tally named id, applyEach edits page = .ok tally named ∧
      named.document = page.document ∧ named.bindings.lookup? id = some x := by
  rcases hx with ⟨slot, hm, rfl⟩ | ⟨id, hl⟩
  · obtain ⟨pre, rest, hs⟩ := List.append_of_mem hm
    obtain ⟨tally, popped, hpops, hdoc, -, hslots⟩ := applyEach_popRoot pre hs
    obtain ⟨id, hid, hfree⟩ := exists_free popped.bindings
    have hlead : popped.Leads [] slot.node := ⟨slot, rest, hslots, rfl⟩
    have hassign := apply_assignId hlead hid hfree
    refine ⟨_, _, _, id, applyEach_append hpops (applyEach_singleton hassign), hdoc, ?_⟩
    show (popped.bindings.assign id slot.node).lookup? id = some slot.node
    rw [Bindings.lookup?_assign, if_pos rfl]
  · exact ⟨[], .zero, page, id, rfl, rfl, hl⟩

/-! ## Rewriting an exposed tree -/

section Spoil

variable {page : Page} {id : NodeId} {x p top : Handle} {tree : Tree}

/-- Removing a node of the tree takes it out of a list of the tree. -/
theorem spoils_of_listed (ht : page.document.Treelike) (hl : page.bindings.lookup? id = some x)
    (hp : page.document.Below top p) (hc : x ∈ page.document.children p)
    (htree : page.document.tree? top = some tree) :
    ∃ tally reached, apply (.remove id) page = .ok tally reached ∧
      reached.document.tree? top ≠ some tree := by
  have ha := alike_of_nodes (nodes_release page id)
  have hparent : (page.release id).2.document.parent? x = some p := by
    rw [ha.parent]
    exact ht.parent_of_mem p x hc
  have hdetach : detach x (page.release id).2.document =
      .ok true ((page.release id).2.document.unlink x) := by
    have hexist := (contains_iff _ x).mpr (lt_size_of_parent? hparent)
    unfold detach
    rw [if_pos hexist, hparent]
    rfl
  have hrun : remove id page = .ok true
      { (page.release id).2 with document := (page.release id).2.document.unlink x } :=
    (remove_of_bound hl).trans (onDocument_of_ok _ hdetach)
  refine ⟨_, _, run_bind_of_ok hrun _, ?_⟩
  have hcut := loosened_unlink (ha.treelike ht) x
  have hlists : ∀ y, ((page.release id).2.document.unlink x).children y =
      (page.document.children y).filter fun c => !decide (c ∈ [x]) := by
    intro y
    rw [hcut.children, ha.children]
  have hafter := hcut.treelike (ha.treelike ht)
  show ((page.release id).2.document.unlink x).tree? top ≠ some tree
  rw [ne_eq, ← shows_iff hafter]
  apply not_shows_of_length_ne hp _ _ ((shows_iff ht top tree).mpr htree)
  · intro y hy
    have hsame : ∀ c ∈ page.document.children y, (!decide (c ∈ [x])) = true := by
      intro c hcy
      have hcx : c ≠ x := by
        rintro rfl
        exact hy (ht.lister_unique hcy hc)
      simpa using hcx
    rw [hlists, List.filter_eq_self.mpr hsame]
  · rw [hlists]
    have hlt : ((page.document.children p).filter fun c => !decide (c ∈ [x])).length <
        (page.document.children p).length := by
      rw [List.length_filter_lt_length_iff_exists]
      exact ⟨x, hc, by simp⟩
    exact Nat.ne_of_lt hlt

/-- A placeholder that is put after a lost child goes to the end of a list of the tree. -/
theorem spoils_of_unlisted (ht : page.document.Treelike)
    (hl : page.bindings.lookup? id = some x) (hx : page.document.parent? x = some p)
    (hp : page.document.Below top p) (hc : x ∉ page.document.children p)
    (htree : page.document.tree? top = some tree) :
    ∃ edits tally reached, applyEach edits page = .ok tally reached ∧
      reached.document.tree? top ≠ some tree := by
  obtain ⟨other, hother, hfree⟩ := exists_free page.bindings
  obtain ⟨after, hinsert, hafter, hstarts, hlonger⟩ := exists_insertAfter_unlisted ht hx hc
  let made : Page :=
    { page with
      document := (page.document.create .placeholder).2
      bindings := page.bindings.assign other page.document.size
      operands := page.operands.push page.document.size }
  have hmade : apply (.createPlaceholder other) page = .ok .creation made :=
    make_of_free hother hfree .placeholder
  have hnamed : made.bindings.lookup? id = some x := by
    have hio : other ≠ id := by
      rintro rfl
      rw [hl] at hfree
      cases hfree
    show (page.bindings.assign other page.document.size).lookup? id = some x
    rw [Bindings.lookup?_assign, if_neg hio, hl]
  have hslots : made.operands.slots = ⟨page.document.size, false⟩ :: page.operands.slots := rfl
  have hput := apply_insertAfter hslots hnamed hinsert
  refine ⟨_, _, _, applyEach_cons hmade (applyEach_singleton hput), ?_⟩
  show after.tree? top ≠ some tree
  rw [ne_eq, ← shows_iff hafter]
  exact not_shows_of_length_ne hp (fun y _ => hstarts y) (Nat.ne_of_gt hlonger)
    ((shows_iff ht top tree).mpr htree)

end Spoil

/-- A tree that the page exposes can be rewritten, unless its top itself is held. -/
theorem Exposes.spoils {page : Page} (ht : page.document.Treelike) {top : Handle} {tree : Tree}
    (htop : ¬ page.Holds top) (h : page.Exposes top)
    (htree : page.document.tree? top = some tree) :
    ∃ edits tally reached, applyEach edits page = .ok tally reached ∧
      reached.document.tree? top ≠ some tree := by
  obtain ⟨x, hx, hin⟩ := h
  obtain ⟨edits, tally, named, id, hnamed, hdoc, hl⟩ := exists_named hx
  rw [← hdoc] at ht hin htree
  have hlisted : ∀ p, named.document.Below top p → x ∈ named.document.children p →
      ∃ edits tally reached, applyEach edits page = .ok tally reached ∧
        reached.document.tree? top ≠ some tree := by
    intro p hp hc
    obtain ⟨one, reached, hrun, hspoiled⟩ := spoils_of_listed ht hl hp hc htree
    exact ⟨_, _, reached, applyEach_append hnamed (applyEach_singleton hrun), hspoiled⟩
  rcases hin with hbelow | ⟨p, hp, hbelow⟩
  · cases hbelow with
    | here => exact absurd hx htop
    | child hp hc => exact hlisted _ hp hc
  · by_cases hc : x ∈ named.document.children p
    · exact hlisted p hbelow hc
    · obtain ⟨more, later, reached, hrun, hspoiled⟩ := spoils_of_unlisted ht hl hp hbelow hc htree
      exact ⟨_, _, reached, applyEach_append hnamed hrun, hspoiled⟩

end Page

end PageHost
