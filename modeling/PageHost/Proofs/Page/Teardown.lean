import PageHost.Proofs.Delegation.Commute
import PageHost.Proofs.Document.Detach
import PageHost.Proofs.Page.Regroup
/-!
# Taking a page down

The edits that remove nodes by their ids and that take back registrations arrive in no
particular order. On a page that is in order none of them fails, and two of them come to
the same page in either order: a node and one below it, two ids of one node, a
registration and its id. So a list of such edits comes to the same page as any
permutation of it, with the same tally.
-/

namespace PageHost

namespace Edit

/-- The edit removes what an id names. -/
def isRemove : Edit → Bool
  | .remove _ => true
  | _ => false

/-- The edit takes something down: a node with its id, or a registration. -/
def isTeardown : Edit → Bool
  | .remove _ | .removeEventListener _ _ => true
  | _ => false

end Edit

namespace Page

/-! ## Pages in order -/

/-- Nodes, ids, operands and registrations are in order. -/
structure Tidy (page : Page) : Prop where
  wellFormed : page.WellFormed
  proper : page.delegation.Proper

section Registrations

/-! What each call about registrations keeps, every edit keeps. -/

variable {P : Delegation → Prop}
  (hperform : ∀ d doc (call : Delegation.Revocation), P d → P (call.perform d doc).1)
include hperform

/-- What every revocation keeps is kept when ids are forgotten. -/
theorem keeps_forgetAll (page : Page) (ids : List NodeId) (h : P page.delegation) :
    P (page.forgetAll ids).delegation := by
  induction ids generalizing page with
  | nil => exact h
  | cons id rest ih =>
    have hfirst : P (page.forget id).delegation := hperform _ page.document (.all id) h
    exact ih (page.forget id) hfirst

theorem keeps_release {page : Page} (h : P page.delegation) (id : NodeId) :
    P (page.release id).2.delegation := by
  cases hl : page.bindings.lookup? id with
  | none =>
    rw [release_of_unbound hl]
    exact h
  | some node =>
    rw [release_of_bound hl]
    exact keeps_forgetAll hperform _ [id] h

/-- What registrations and revocations keep is kept by every edit. -/
theorem keeps_apply
    (hlisten : ∀ (d : Delegation) doc id name handler, P d → P (d.listen doc id name handler).2.1)
    {page : Page} (h : P page.delegation) (edit : Edit) :
    P (left (apply edit page)).delegation := by
  have hends := ends_apply page edit
  generalize apply edit page = result at hends ⊢
  cases hends with
  | moved id value _ _ =>
    show P (Page.delegation (if _ then _ else _))
    split
    · exact h
    · exact hperform _ page.document (.all id) h
  | @inserted _ _ _ _ operands doc _ _ _ _ =>
    show P (Page.delegation (edit.finish _))
    unfold Edit.finish
    split
    · exact h
    · have hmoved : P (Page.delegation { page with operands := operands, document := doc }) := h
      exact keeps_release hperform hmoved _
    · exact h
  | removed id _ _ _ => exact keeps_release hperform h id
  | missing id _ _ => exact keeps_release hperform h id
  | taken _ _ _ _ _ => exact keeps_forgetAll hperform _ _ h
  | known _ _ _ _ _ => exact keeps_forgetAll hperform _ _ h
  | registered _ _ _ _ _ _ => exact keeps_forgetAll hperform _ _ h
  | listened name id handler _ => exact hlisten _ page.document id name handler h
  | unlistened id name => exact hperform _ page.document (.one id name) h
  | _ => exact h

end Registrations

/-- Each edit keeps one entry for an id and an event, with a positive count. -/
theorem proper_apply {page : Page} (h : page.delegation.Proper) (edit : Edit) :
    (left (apply edit page)).delegation.Proper :=
  keeps_apply (fun _ doc call h => h.perform doc call) (fun _ doc id name handler h =>
    h.listen doc id name handler) h edit

/-- Every edit leaves the page tidy. -/
theorem Tidy.apply {page : Page} (h : page.Tidy) (edit : Edit) :
    (left (Page.apply edit page)).Tidy :=
  ⟨(settles_apply h.wellFormed edit).wellFormed, proper_apply h.proper edit⟩

/-- Reached pages are in order. -/
theorem Reached.tidy {page : Page} (hr : page.Reached) : page.Tidy :=
  ⟨hr.wellFormed, hr.invariant (P := fun page => page.delegation.Proper)
    (fun _ _ _ => Delegation.proper_empty) (fun _ edit h => proper_apply h edit) fun _ h => h⟩

/-! ## The parts of an edit -/

/-- The page after a call that takes registrations back. -/
def revoked (page : Page) (call : Delegation.Revocation) : Page :=
  { page with
    delegation := (call.perform page.delegation page.document).1
    document := (call.perform page.delegation page.document).2 }

/-- The page with an id released, its registrations apart. -/
def unbound (page : Page) (id : NodeId) : Page :=
  { page with bindings := (page.bindings.unbind id).2 }

/-- The page with a node out of its place. -/
def detached (page : Page) (node : Handle) : Page :=
  { page with document := page.document.detached node }

/-- Registrations can be taken back in either order. -/
theorem revoked_comm {page : Page} (h : page.delegation.Proper) (a b : Delegation.Revocation) :
    (page.revoked a).revoked b = (page.revoked b).revoked a := by
  have hcomm := Delegation.Revocation.perform_comm h page.document a b
  unfold revoked
  dsimp only
  rw [hcomm]

theorem unbound_comm (page : Page) (a b : NodeId) :
    (page.unbound a).unbound b = (page.unbound b).unbound a := by
  unfold unbound
  dsimp only
  rw [Bindings.unbind_comm]

theorem detached_comm {page : Page} (ht : page.document.Treelike) {a b : Handle}
    (ha : a < page.document.size) (hb : b < page.document.size) :
    (page.detached a).detached b = (page.detached b).detached a := by
  unfold detached
  dsimp only
  rw [Document.detached_comm ht ha hb]

/-- Calls are about the root listeners of the document, and detaching is about its nodes. -/
theorem revoked_detached (page : Page) (call : Delegation.Revocation) (node : Handle) :
    (page.detached node).revoked call = (page.revoked call).detached node := by
  obtain ⟨doc, bindings, operands, templates, d, strict⟩ := page
  have hdetached : doc.detached node = { doc with nodes := (doc.detached node).nodes } := by
    rw [← Document.rootListeners_detached doc node]
  have hcall : (call.perform d doc).2 =
      { doc with rootListeners := (call.perform d doc).2.rootListeners } := by
    rw [← Delegation.Revocation.nodes_perform d doc call]
  have hbefore := Delegation.Revocation.perform_nodes d doc (doc.detached node).nodes call
  have hafter := Document.detached_listeners doc (call.perform d doc).2.rootListeners node
  rw [← hdetached] at hbefore
  rw [← hcall] at hafter
  unfold revoked detached
  dsimp only
  rw [hbefore, hafter]

/-- Taking registrations back changes no link. -/
theorem alike_revoked (page : Page) (call : Delegation.Revocation) :
    page.document.Alike (page.revoked call).document :=
  Document.alike_of_nodes (Delegation.Revocation.nodes_perform _ _ _)

/-! ## One edit -/

/-- The page that an edit leaves that takes something down. -/
def torn (page : Page) : Edit → Page
  | .remove id =>
    match page.bindings.lookup? id with
    | none => page
    | some node => ((page.unbound id).revoked (.all id)).detached node
  | .removeEventListener id name => page.revoked (.one id name)
  | _ => page

/-- How many nodes an edit takes off the page. -/
def takes (page : Page) : Edit → Nat
  | .remove id =>
    match page.bindings.lookup? id with
    | none => 0
    | some node => if (page.document.parent? node).isSome then 1 else 0
  | _ => 0

section Remove

variable {page : Page} {id : NodeId}

theorem torn_of_unbound (h : page.bindings.lookup? id = none) : page.torn (.remove id) = page := by
  rw [torn, h]

/-- Removing a bound id takes back its binding and its registrations and detaches its node. -/
theorem torn_of_bound {node : Handle} (h : page.bindings.lookup? id = some node) :
    page.torn (.remove id) = ((page.unbound id).revoked (.all id)).detached node := by
  rw [torn, h]

theorem takes_of_unbound (h : page.bindings.lookup? id = none) : page.takes (.remove id) = 0 := by
  rw [takes, h]

/-- Removing a bound id takes its node off the page if it has a parent. -/
theorem takes_of_bound {node : Handle} (h : page.bindings.lookup? id = some node) :
    page.takes (.remove id) = if (page.document.parent? node).isSome then 1 else 0 := by
  rw [takes, h]

end Remove

/-- An edit that takes something down does not fail. -/
theorem apply_teardown {page : Page} (hw : page.WellFormed) {edit : Edit}
    (he : edit.isTeardown = true) :
    apply edit page = .ok ⟨1, 0, page.takes edit⟩ (page.torn edit) := by
  cases edit with
  | remove id =>
    show (remove id >>= fun moved => pure (if moved then Tally.removal else Tally.plain) :
      Step Tally) page = _
    cases hl : page.bindings.lookup? id with
    | none =>
      have hrun : remove id page = .ok false page := by
        unfold remove
        rw [release_of_unbound hl]
      rw [run_bind_of_ok hrun, takes_of_unbound hl, torn_of_unbound hl]
      rfl
    | some node =>
      let released := (page.unbound id).revoked (.all id)
      have hrelease : page.release id = (some node, released) := release_of_bound hl
      have ha : page.document.Alike released.document := alike_revoked (page.unbound id) (.all id)
      have hs : node < released.document.size := by
        rw [ha.size]
        exact hw.bound id node hl
      have hdetach := Document.detach_eq hs
      rw [ha.parent] at hdetach
      have hrun : remove id page =
          .ok (page.document.parent? node).isSome (released.detached node) := by
        unfold remove
        rw [hrelease]
        exact onDocument_of_ok released hdetach
      rw [run_bind_of_ok hrun, takes_of_bound hl, torn_of_bound hl]
      split <;> rfl
  | removeEventListener id name => rfl
  | _ => cases he

/-- A tidy page stays tidy when something is taken down. -/
theorem Tidy.torn {page : Page} (h : page.Tidy) {edit : Edit} (he : edit.isTeardown = true) :
    (page.torn edit).Tidy := by
  have hleft := h.apply edit
  rw [apply_teardown h.wellFormed he] at hleft
  exact hleft

/-! ## Two edits -/

/-- The removed id names nothing, and all others name what they named. -/
theorem lookup?_torn_remove (page : Page) (id other : NodeId) :
    (page.torn (.remove id)).bindings.lookup? other =
      if id = other then none else page.bindings.lookup? other := by
  cases hl : page.bindings.lookup? id with
  | none =>
    rw [torn_of_unbound hl]
    split
    · rename_i he
      rw [← he, hl]
    · rfl
  | some node =>
    rw [torn_of_bound hl]
    exact Bindings.lookup?_unbind page.bindings id other

/-- Removing what an id names and taking back a registration can be done in either order. -/
theorem torn_remove_revoked {page : Page} (h : page.Tidy) (id : NodeId)
    (call : Delegation.Revocation) :
    (page.revoked call).torn (.remove id) = (page.torn (.remove id)).revoked call := by
  cases hl : page.bindings.lookup? id with
  | none =>
    have hl' : (page.revoked call).bindings.lookup? id = none := hl
    rw [torn_of_unbound hl, torn_of_unbound hl']
  | some node =>
    have hl' : (page.revoked call).bindings.lookup? id = some node := hl
    have hp : (page.unbound id).delegation.Proper := h.proper
    rw [torn_of_bound hl, torn_of_bound hl', revoked_detached, revoked_comm hp]
    rfl

/-- What two ids name can be removed in either order. -/
theorem torn_remove_remove {page : Page} (h : page.Tidy) (a b : NodeId) :
    (page.torn (.remove a)).torn (.remove b) = (page.torn (.remove b)).torn (.remove a) := by
  by_cases hab : a = b
  · rw [hab]
  have hla := lookup?_torn_remove page b a
  have hlb := lookup?_torn_remove page a b
  rw [if_neg (Ne.symm hab)] at hla
  rw [if_neg hab] at hlb
  cases ha : page.bindings.lookup? a with
  | none => rw [torn_of_unbound ha, torn_of_unbound (hla.trans ha)]
  | some x =>
    cases hb : page.bindings.lookup? b with
    | none => rw [torn_of_unbound hb, torn_of_unbound (hlb.trans hb)]
    | some y =>
      let free := ((page.unbound a).unbound b).revoked (.all a)
      let bare := free.revoked (.all b)
      have hfree : page.document.Alike free.document := alike_revoked _ (.all a)
      have hboth : page.document.Alike bare.document := hfree.trans (alike_revoked free (.all b))
      have hx : x < bare.document.size := by
        rw [hboth.size]
        exact h.wellFormed.bound a x ha
      have hy : y < bare.document.size := by
        rw [hboth.size]
        exact h.wellFormed.bound b y hb
      have ht : bare.document.Treelike := hboth.treelike h.wellFormed.tree
      have hfirst : (page.torn (.remove a)).torn (.remove b) = (bare.detached x).detached y := by
        rw [torn_of_bound (hlb.trans hb), torn_of_bound ha]
        show ((free.detached x).revoked (.all b)).detached y = _
        rw [revoked_detached]
      have hsecond : (page.torn (.remove b)).torn (.remove a) = (bare.detached y).detached x := by
        rw [torn_of_bound (hla.trans ha), torn_of_bound hb]
        have hp : ((page.unbound b).unbound a).delegation.Proper := h.proper
        show (((((page.unbound b).unbound a).revoked (.all b)).detached y).revoked
          (.all a)).detached x = _
        rw [revoked_detached, revoked_comm hp, unbound_comm]
      rw [hfirst, hsecond, detached_comm ht hx hy]

/-- Two edits that take something down leave the same page in either order. -/
theorem torn_comm {page : Page} (h : page.Tidy) {a b : Edit} (ha : a.isTeardown = true)
    (hb : b.isTeardown = true) : (page.torn a).torn b = (page.torn b).torn a := by
  cases a with
  | remove x =>
    cases b with
    | remove y => exact torn_remove_remove h x y
    | removeEventListener y name => exact (torn_remove_revoked h x (.one y name)).symm
    | _ => cases hb
  | removeEventListener x name =>
    cases b with
    | remove y => exact torn_remove_revoked h y (.one x name)
    | removeEventListener y other => exact revoked_comm h.proper _ _
    | _ => cases hb
  | _ => cases ha

/-- The removed node has no parent, and all others keep theirs. -/
theorem parent?_torn_remove {page : Page} (hw : page.WellFormed) {id : NodeId} {node : Handle}
    (hl : page.bindings.lookup? id = some node) (x : Handle) :
    (page.torn (.remove id)).document.parent? x =
      if x = node then none else page.document.parent? x := by
  have ha : page.document.Alike ((page.unbound id).revoked (.all id)).document :=
    alike_revoked (page.unbound id) (.all id)
  rw [torn_of_bound hl, ← ha.parent x]
  exact Document.parent?_detached (ha.treelike hw.tree) node x

/-- Taking registrations back does not matter for what an edit takes off the page. -/
theorem takes_revoked (page : Page) (call : Delegation.Revocation) (edit : Edit) :
    (page.revoked call).takes edit = page.takes edit := by
  cases edit with
  | remove id =>
    cases hl : page.bindings.lookup? id with
    | none =>
      have hl' : (page.revoked call).bindings.lookup? id = none := hl
      rw [takes_of_unbound hl, takes_of_unbound hl']
    | some node =>
      have hl' : (page.revoked call).bindings.lookup? id = some node := hl
      rw [takes_of_bound hl, takes_of_bound hl', (alike_revoked page call).parent]
  | _ => rfl

/-- In either order two ids take as many nodes off the page: one of the two finds the node gone
if both name it. -/
theorem takes_remove_remove {page : Page} (hw : page.WellFormed) (a b : NodeId) :
    page.takes (.remove a) + (page.torn (.remove a)).takes (.remove b) =
      page.takes (.remove b) + (page.torn (.remove b)).takes (.remove a) := by
  by_cases hab : a = b
  · rw [hab]
  have hla := lookup?_torn_remove page b a
  have hlb := lookup?_torn_remove page a b
  rw [if_neg (Ne.symm hab)] at hla
  rw [if_neg hab] at hlb
  cases ha : page.bindings.lookup? a with
  | none =>
    rw [takes_of_unbound ha, torn_of_unbound ha, takes_of_unbound (hla.trans ha), Nat.zero_add,
      Nat.add_zero]
  | some x =>
    cases hb : page.bindings.lookup? b with
    | none =>
      rw [takes_of_unbound hb, torn_of_unbound hb, takes_of_unbound (hlb.trans hb), Nat.zero_add,
        Nat.add_zero]
    | some y =>
      rw [takes_of_bound ha, takes_of_bound hb, takes_of_bound (hlb.trans hb),
        takes_of_bound (hla.trans ha), parent?_torn_remove hw ha, parent?_torn_remove hw hb]
      by_cases hxy : x = y
      · rw [hxy]
      · rw [if_neg (Ne.symm hxy), if_neg hxy, Nat.add_comm]

/-- Two edits that take something down take as many nodes off the page in either order. -/
theorem takes_comm {page : Page} (h : page.Tidy) {a b : Edit} (ha : a.isTeardown = true)
    (hb : b.isTeardown = true) :
    page.takes a + (page.torn a).takes b = page.takes b + (page.torn b).takes a := by
  cases a with
  | remove x =>
    cases b with
    | remove y => exact takes_remove_remove h.wellFormed x y
    | removeEventListener y name =>
      rw [Nat.add_comm]
      exact congrArg (0 + ·) (takes_revoked page (.one y name) (.remove x)).symm
    | _ => cases hb
  | removeEventListener x name =>
    cases b with
    | remove y =>
      rw [Nat.add_comm (page.takes (.remove y))]
      exact congrArg (0 + ·) (takes_revoked page (.one x name) (.remove y))
    | removeEventListener y other => rfl
    | _ => cases hb
  | _ => cases ha

/-! ## Lists of edits -/

/-- The page that edits leave that take something down. -/
def tornAll (page : Page) (edits : List Edit) : Page := edits.foldl torn page

/-- How many nodes edits take off the page. -/
def takesAll (page : Page) : List Edit → Nat
  | [] => 0
  | edit :: rest => page.takes edit + (page.torn edit).takesAll rest

/-- Edits that take something down do not fail. -/
theorem applyEach_teardown {edits : List Edit} (ht : ∀ edit ∈ edits, edit.isTeardown = true)
    {page : Page} (h : page.Tidy) :
    applyEach edits page = .ok ⟨edits.length, 0, page.takesAll edits⟩ (page.tornAll edits) := by
  induction edits generalizing page with
  | nil => rfl
  | cons edit rest ih =>
    have he := ht edit List.mem_cons_self
    have hrest := ih (fun other hm => ht other (List.mem_cons_of_mem edit hm)) (h.torn he)
    rw [applyEach_cons (apply_teardown h.wellFormed he) hrest, List.length_cons, Nat.add_comm]
    rfl

/-- The order of edits that take something down makes no difference to the page that they leave
and to the number of nodes that they take off it. -/
theorem teardown_perm {edits others : List Edit} (hperm : edits.Perm others)
    (ht : ∀ edit ∈ edits, edit.isTeardown = true) {page : Page} (h : page.Tidy) :
    page.tornAll edits = page.tornAll others ∧ page.takesAll edits = page.takesAll others := by
  induction hperm generalizing page with
  | nil => exact ⟨rfl, rfl⟩
  | cons edit _ ih =>
    have he := ht edit List.mem_cons_self
    obtain ⟨hpage, hcount⟩ :=
      ih (fun other hm => ht other (List.mem_cons_of_mem edit hm)) (h.torn he)
    exact ⟨hpage, congrArg (page.takes edit + ·) hcount⟩
  | swap a b rest =>
    have hb := ht b List.mem_cons_self
    have ha := ht a (List.mem_cons_of_mem b List.mem_cons_self)
    have hpage := torn_comm h ha hb
    have hcount := takes_comm h ha hb
    constructor
    · exact congrArg (fun page => tornAll page rest) hpage.symm
    · show page.takes b + ((page.torn b).takes a + ((page.torn b).torn a).takesAll rest) =
        page.takes a + ((page.torn a).takes b + ((page.torn a).torn b).takesAll rest)
      rw [← Nat.add_assoc, ← Nat.add_assoc, hpage, hcount]
  | trans hfirst _ ih ih' =>
    obtain ⟨hpage, hcount⟩ := ih ht h
    obtain ⟨hpage', hcount'⟩ := ih' (fun edit hm => ht edit (hfirst.mem_iff.mpr hm)) h
    exact ⟨hpage.trans hpage', hcount.trans hcount'⟩

/-- An id that names nothing goes on naming nothing. -/
theorem lookup?_tornAll_of_none {page : Page} {id : NodeId} (hl : page.bindings.lookup? id = none)
    (edits : List Edit) : (page.tornAll edits).bindings.lookup? id = none := by
  induction edits generalizing page with
  | nil => exact hl
  | cons edit rest ih =>
    apply ih
    cases edit with
    | remove other =>
      rw [lookup?_torn_remove, hl, ite_self]
    | _ => exact hl

/-- The ids of nodes that have been removed name nothing. -/
theorem lookup?_tornAll (page : Page) {edits : List Edit} {id : NodeId}
    (hm : Edit.remove id ∈ edits) : (page.tornAll edits).bindings.lookup? id = none := by
  induction edits generalizing page with
  | nil => cases hm
  | cons edit rest ih =>
    rcases List.mem_cons.mp hm with rfl | hm
    · have hgone : (page.torn (.remove id)).bindings.lookup? id = none := by
        rw [lookup?_torn_remove, if_pos rfl]
      exact lookup?_tornAll_of_none hgone rest
    · exact ih (page.torn edit) hm

/-- Removing what ids name that name nothing changes nothing. -/
theorem tornAll_of_unbound {page : Page} {edits : List Edit}
    (h : ∀ edit ∈ edits, ∃ id, edit = .remove id ∧ page.bindings.lookup? id = none) :
    page.tornAll edits = page ∧ page.takesAll edits = 0 := by
  induction edits with
  | nil => exact ⟨rfl, rfl⟩
  | cons edit rest ih =>
    obtain ⟨id, rfl, hl⟩ := h edit List.mem_cons_self
    have hrest := ih fun other hm => h other (List.mem_cons_of_mem _ hm)
    show (page.torn (.remove id)).tornAll rest = page ∧
      page.takes (.remove id) + (page.torn (.remove id)).takesAll rest = 0
    rw [torn_of_unbound hl, takes_of_unbound hl, Nat.zero_add]
    exact hrest

/-! ## Batches -/

/-- Taking things down changes neither the operands nor whether the stack is checked. -/
theorem strict_tornAll (page : Page) (edits : List Edit) :
    (page.tornAll edits).strict = page.strict ∧ (page.tornAll edits).operands = page.operands := by
  induction edits generalizing page with
  | nil => exact ⟨rfl, rfl⟩
  | cons edit rest ih =>
    have hedit : (page.torn edit).strict = page.strict ∧
        (page.torn edit).operands = page.operands := by
      cases edit with
      | remove id =>
        cases hl : page.bindings.lookup? id with
        | none =>
          rw [torn_of_unbound hl]
          exact ⟨rfl, rfl⟩
        | some node =>
          rw [torn_of_bound hl]
          exact ⟨rfl, rfl⟩
      | _ => exact ⟨rfl, rfl⟩
    obtain ⟨hstrict, hoperands⟩ := ih (page.torn edit)
    exact ⟨hstrict.trans hedit.1, hoperands.trans hedit.2⟩

/-- A batch of edits that take something down is carried out on every reached page. -/
theorem applyBatch_teardown {page : Page} (hr : page.Reached) {edits : List Edit}
    (ht : ∀ edit ∈ edits, edit.isTeardown = true) :
    applyBatch edits page = .ok ⟨edits.length, 0, page.takesAll edits⟩ (page.tornAll edits) := by
  obtain ⟨hstrict, hoperands⟩ := strict_tornAll page edits
  have hclear : (page.tornAll edits).strict = true → (page.tornAll edits).operands.slots = [] := by
    rw [hstrict, hoperands]
    exact hr.slots_of_strict
  unfold applyBatch
  rw [applyFrom_of_applyEach (applyEach_teardown ht hr.tidy), finish_of_clear hclear,
    Tally.zero_add]

/-- Removals and the taking back of registrations never fail on a reached page, and come to the
same page with the same tally in any order. The removals among them change nothing when they are
carried out once more. -/
theorem teardown_in_any_order {page : Page} (hr : page.Reached) {edits others : List Edit}
    (ht : ∀ edit ∈ edits, edit.isTeardown = true) (hperm : edits.Perm others) :
    ∃ tally after, applyBatch edits page = .ok tally after ∧
      applyBatch others page = .ok tally after ∧
      ∃ again, applyBatch (edits.filter Edit.isRemove) after = .ok again after ∧
        again.removed = 0 := by
  have ht' : ∀ edit ∈ others, edit.isTeardown = true :=
    fun edit hm => ht edit (hperm.mem_iff.mpr hm)
  obtain ⟨hpage, hcount⟩ := teardown_perm hperm ht hr.tidy
  have hfirst := applyBatch_teardown hr ht
  have hsecond := applyBatch_teardown hr ht'
  rw [← hpage, ← hcount, ← hperm.length_eq] at hsecond
  have hreached : (page.tornAll edits).Reached := by
    have hbatch := hr.batch edits
    unfold afterBatch at hbatch
    rw [hfirst] at hbatch
    exact hbatch
  have hunbound : ∀ edit ∈ edits.filter Edit.isRemove, ∃ id, edit = .remove id ∧
      (page.tornAll edits).bindings.lookup? id = none := by
    intro edit hm
    obtain ⟨hmem, hremove⟩ := List.mem_filter.mp hm
    cases edit with
    | remove id => exact ⟨id, rfl, lookup?_tornAll page hmem⟩
    | _ => cases hremove
  obtain ⟨hsame, hzero⟩ := tornAll_of_unbound hunbound
  have hagain := applyBatch_teardown hreached
    fun edit (hm : edit ∈ edits.filter Edit.isRemove) => ht edit (List.mem_of_mem_filter hm)
  rw [hsame] at hagain
  exact ⟨_, _, hfirst, hsecond, _, hagain, hzero⟩

/-- A division with a paragraph that has two ids and two registrations is taken down forwards and
backwards: two nodes leave the page. -/
theorem teardown_forwards_and_backwards :
    let page := (ofDocument .blank false).afterBatch
      [.setNode 9 (.handle 3), .pushRoot 9, .createElement "div" 1, .createElement "p" 2,
        .appendChildren 1, .appendChildren 1, .popRoot, .setNode 3 (.handle 5),
        .newEventListener "click" 2 .null, .newEventListener "click" 2 .null]
    let edits : List Edit := [.remove 1, .remove 2, .removeEventListener 2 "click", .remove 3]
    (∀ edit ∈ edits, edit.isTeardown = true) ∧
      given (applyBatch edits.reverse page) = some ⟨4, 0, 2⟩ ∧
      ∃ tally after, applyBatch edits page = .ok tally after ∧
        applyBatch edits.reverse page = .ok tally after ∧
        ∃ again, applyBatch (edits.filter Edit.isRemove) after = .ok again after ∧
          again.removed = 0 := by
  intro page edits
  have hteardown : ∀ edit ∈ edits, edit.isTeardown = true := by decide
  have hreached : page.Reached := (Reached.start [] [] false).batch _
  refine ⟨hteardown, by decide +kernel, ?_⟩
  exact teardown_in_any_order hreached hteardown (List.reverse_perm edits).symm

end Page

end PageHost
