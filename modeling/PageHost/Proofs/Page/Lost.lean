import PageHost.Proofs.Page.Batch
import PageHost.Proofs.Page.Release
/-!
# Lost nodes

The stack may hold a node twice, or a node beside the fragment that it is a child
of. An insertion of such operands gives the node its parent and drops it from the
list of that parent: the node is lost. Nothing else loses a node. So a run keeps
every node listed exactly if each insertion that it carries out moves no node
twice, and then the walks down and up the page see the same nodes.
-/

namespace PageHost

/-- Whether an edit has moved its operands: it succeeded, or it saved a template
under a name that is taken. -/
def Edit.hasMoved (edit : Edit) : EStateM.Result EditError Page Tally → Bool
  | .ok _ _ => true
  | .error (.templateRedefinition _) _ =>
    match edit with
    | .saveTemplate _ _ => true
    | _ => false
  | .error _ _ => false

/-- The nodes that an attempt moves, a fragment standing for its children. -/
def Page.Attempt.moved (attempt : Page.Attempt) : List Handle :=
  match attempt.edit.operandCount? with
  | none => []
  | some count =>
    if attempt.edit.hasMoved (Page.apply attempt.edit attempt.page) then
      match attempt.page.operands.popMany count with
      | .error _ => []
      | .ok (nodes, _) =>
        match attempt.page.document.flatten nodes with
        | .error _ => []
        | .ok moved => moved
    else []

namespace Page

/-- An attempt that has moved nodes moved those that its operands flatten to. -/
theorem Attempt.moved_eq {page : Page} {edit : Edit} {count : Nat} {nodes moved : List Handle}
    {operands : Operands} (hc : edit.operandCount? = some count)
    (hm : edit.hasMoved (apply edit page) = true)
    (hp : page.operands.popMany count = .ok (nodes, operands))
    (hf : page.document.flatten nodes = .ok moved) : Attempt.moved ⟨page, edit⟩ = moved := by
  unfold Attempt.moved
  dsimp only
  rw [hc]
  dsimp only
  rw [if_pos hm, hp]
  dsimp only
  rw [hf]

/-- An attempt that failed before it moved anything moved nothing. -/
theorem Attempt.moved_of_not_hasMoved {page : Page} {edit : Edit}
    (hm : edit.hasMoved (apply edit page) = false) : Attempt.moved ⟨page, edit⟩ = [] := by
  unfold Attempt.moved
  cases edit.operandCount? with
  | none => rfl
  | some count =>
    dsimp only
    rw [hm]
    rfl

/-- An edit without operands moves nothing. -/
theorem Attempt.moved_of_operandCount? {page : Page} {edit : Edit}
    (hc : edit.operandCount? = none) : Attempt.moved ⟨page, edit⟩ = [] := by
  unfold Attempt.moved
  dsimp only
  rw [hc]

/-! ## One edit -/

/-- The page stays well formed, and if it had no lost node it gets one exactly if
a node is moved twice. -/
structure Settles (start page : Page) (moved : List Handle) : Prop where
  wellFormed : page.WellFormed
  allListed : start.document.AllListed → (page.document.AllListed ↔ moved.Nodup)

/-- A page that evolves settles with nothing moved. -/
theorem settles_of_evolves {start page : Page} (hw : start.WellFormed) (h : Evolves start page) :
    Settles start page [] := by
  obtain ⟨hpage, ha⟩ := h hw
  exact ⟨hpage, fun hl => ⟨fun _ => List.nodup_nil, fun _ => ha.allListed hl⟩⟩

/-- A page stays well formed when operands are taken off. -/
theorem WellFormed.withOperands {page : Page} (h : page.WellFormed) {count : Nat}
    {nodes : List Handle} {operands : Operands}
    (hp : page.operands.popMany count = .ok (nodes, operands)) :
    WellFormed { page with operands := operands } := by
  obtain ⟨-, rfl⟩ := popMany_ok hp
  exact ⟨h.tree, h.rooted, h.bound, fun slot hm => h.stacked slot (List.mem_of_mem_drop hm)⟩

/-- A last step that neither loses nor finds a node. -/
def Tidies (finish : Page → Page) : Prop :=
  ∀ page : Page, page.WellFormed →
    (finish page).WellFormed ∧
      ((finish page).document.AllListed ↔ page.document.AllListed)

theorem tidies_id : Tidies fun page => page := fun _ h => ⟨h, Iff.rfl⟩

theorem tidies_markParent :
    Tidies fun page => { page with operands := page.operands.markParent } := by
  intro page h
  refine ⟨⟨h.tree, h.rooted, h.bound, ?_⟩, Iff.rfl⟩
  intro slot hm
  replace hm : slot ∈ page.operands.markParent.slots := hm
  unfold Operands.markParent at hm
  have hstacked := h.stacked
  cases hs : page.operands.slots with
  | nil =>
    rw [hs] at hm hstacked
    dsimp only at hm
    rw [hs] at hm
    exact hstacked slot hm
  | cons first rest =>
    rw [hs] at hm hstacked
    rcases List.mem_cons.mp hm with rfl | hm
    · exact hstacked first List.mem_cons_self
    · exact hstacked slot (List.mem_cons_of_mem first hm)

/-- A last step that leaves the nodes alone. -/
theorem tidies_of_nodes {finish : Page → Page} (he : ∀ page, Evolves page (finish page))
    (hn : ∀ page, (finish page).document.nodes = page.document.nodes) : Tidies finish := by
  intro page h
  have ha := Document.alike_of_nodes (hn page)
  exact ⟨(he page h).1, ha.symm.allListed, ha.allListed⟩

/-- Releasing an id touches no node. -/
theorem nodes_release (page : Page) (id : NodeId) :
    (page.release id).2.document.nodes = page.document.nodes := by
  cases hl : page.bindings.lookup? id with
  | none => rw [release_of_unbound hl]
  | some node =>
    rw [release_of_bound hl]
    exact nodes_forgetAll _ _

theorem tidies_release (id : NodeId) : Tidies fun page => (page.release id).2 :=
  tidies_of_nodes (fun page => evolves_release page id) fun page => nodes_release page id

/-- Releasing the ids below a node tidies. -/
theorem tidies_releaseBelow (top : Handle) : Tidies fun page => page.releaseBelow top := by
  apply tidies_of_nodes
  · intro page
    apply evolves_of_nodes
    · exact nodes_forgetAll _ _
    · intro id node hl
      rw [bindings_releaseBelow, Bindings.unbindWhere_snd, Bindings.lookup?_unbindAll] at hl
      split at hl
      · cases hl
      · exact hl
    · exact operands_forgetAll _ _
  · exact fun page => nodes_forgetAll _ _

/-- An insertion settles with the nodes that it moved. -/
theorem Inserting.settles {page : Page} (hw : page.WellFormed) {edit : Edit} {count : Nat}
    {finish : Page → Page} (hc : edit.operandCount? = some count)
    (hs : ∀ e reached, edit.hasMoved (.error e reached) = false)
    (h : Inserting page count finish (apply edit page)) (hfinish : Tidies finish) :
    Settles page (left (apply edit page)) (Attempt.moved ⟨page, edit⟩) := by
  have hfailed : ∀ e reached, apply edit page = .error e reached →
      Attempt.moved ⟨page, edit⟩ = [] := by
    intro e reached hr
    apply Attempt.moved_of_not_hasMoved
    rw [hr]
    exact hs e reached
  have hok : ∀ tally reached, apply edit page = .ok tally reached →
      edit.hasMoved (apply edit page) = true := by
    intro tally reached hr
    rw [hr]
    rfl
  generalize hr : apply edit page = result at h hfailed hok
  cases h with
  | short e =>
    rw [hfailed e _ rfl]
    exact settles_of_evolves hw (.refl page)
  | unplaced e hp =>
    rw [hfailed e _ rfl]
    exact ⟨hw.withOperands hp, fun hl => ⟨fun _ => List.nodup_nil, fun _ => hl⟩⟩
  | refused e hp hi _ =>
    rw [hfailed _ _ rfl]
    have hi := hi hw.tree
    refine ⟨(hw.withOperands hp).withDocument (hi.treelike hw.tree) (hi.size_le hw.tree), ?_⟩
    exact fun hl => ⟨fun _ => List.nodup_nil, fun _ => hi.allListed_of_error hw.tree hl⟩
  | done tally hp hi _ =>
    have hi := hi hw.tree
    obtain ⟨moved, hf⟩ := hi.flatten_ok
    have hmoved := hok _ _ rfl
    rw [← hr] at hmoved
    rw [Attempt.moved_eq hc hmoved hp hf]
    have hinserted := (hw.withOperands hp).withDocument (hi.treelike hw.tree) (hi.size_le hw.tree)
    obtain ⟨hfinished, hsame⟩ := hfinish _ hinserted
    exact ⟨hfinished, fun hl => hsame.trans (hi.allListed_iff hw.tree hl hf)⟩

/-- What flattens does not depend on other nodes. -/
theorem flatten_congr {a b : Document} {nodes : List Handle}
    (h : ∀ n ∈ nodes, b.kind? n = a.kind? n ∧ b.children n = a.children n) :
    b.flatten nodes = a.flatten nodes := by
  induction nodes with
  | nil => rfl
  | cons n rest ih =>
    obtain ⟨hk, hc⟩ := h n List.mem_cons_self
    have hrest := ih fun m hm => h m (List.mem_cons_of_mem n hm)
    unfold Document.flatten Document.kindOf
    rw [hk, hc, hrest]

/-- The operands that are taken off exist. -/
theorem lt_size_of_popMany {page : Page} (hw : page.WellFormed) {count : Nat}
    {nodes : List Handle} {operands : Operands}
    (hp : page.operands.popMany count = .ok (nodes, operands)) {n : Handle} (hn : n ∈ nodes) :
    n < page.document.size := by
  obtain ⟨rfl, -⟩ := popMany_ok hp
  obtain ⟨slot, hs, rfl⟩ := List.mem_map.mp (List.mem_reverse.mp hn)
  exact hw.stacked slot (List.mem_of_mem_take hs)

/-- The fresh fragment is not among the operands. -/
theorem flatten_withFragment {page : Page} (hw : page.WellFormed) {count : Nat}
    {nodes : List Handle} {operands : Operands}
    (hp : page.operands.popMany count = .ok (nodes, operands)) :
    page.withFragment.flatten nodes = page.document.flatten nodes := by
  apply flatten_congr
  intro n hn
  have hne : n ≠ page.document.size := Nat.ne_of_lt (lt_size_of_popMany hw hp hn)
  constructor
  · show (page.document.push _).kind? n = _
    rw [Document.kind?_eq, Document.content?_push, if_neg hne, ← Document.kind?_eq]
  · show (page.document.push _).children n = _
    rw [Document.children_push, if_neg hne]

/-- Saving a template settles with the nodes that it moved. -/
theorem settles_saveTemplate {page : Page} (hw : page.WellFormed) (name : String) (count : Nat) :
    Settles page (left (apply (.saveTemplate name count) page))
      (Attempt.moved ⟨page, .saveTemplate name count⟩) := by
  have h := saving_saveTemplate page name count
  have hmade := Document.advances_create hw.tree .fragment
  have hgrown : ∀ {nodes : List Handle} {operands : Operands}
      {result : EStateM.Result DomError Document Unit},
      page.operands.popMany count = .ok (nodes, operands) →
      Document.Insertion page.withFragment nodes result →
      WellFormed { page with operands := operands, document := left result } := by
    intro nodes operands result hp hi
    exact (hw.withOperands hp).withDocument (hi.treelike hmade.treelike)
      (Nat.le_trans hmade.size_le (hi.size_le hmade.treelike))
  have hlisted : ∀ {nodes : List Handle} {operands : Operands} {doc : Document},
      (Edit.saveTemplate name count).hasMoved (apply (.saveTemplate name count) page) = true →
      page.operands.popMany count = .ok (nodes, operands) →
      Document.Insertion page.withFragment nodes (.ok () doc) → page.document.AllListed →
      (doc.AllListed ↔ (Attempt.moved ⟨page, .saveTemplate name count⟩).Nodup) := by
    intro nodes operands doc hm hp hi hl
    obtain ⟨moved, hf⟩ := hi.flatten_ok
    have hsame := flatten_withFragment hw hp
    rw [Attempt.moved_eq rfl hm hp (hsame.symm.trans hf)]
    exact hi.allListed_iff hmade.treelike (hmade.allListed hl) hf
  generalize hr : apply (.saveTemplate name count) page = result at h hlisted ⊢
  have hfailed : ∀ e reached, result = .error e reached → (∀ other, e ≠ .templateRedefinition other) →
      Attempt.moved ⟨page, .saveTemplate name count⟩ = [] := by
    intro e reached he hne
    apply Attempt.moved_of_not_hasMoved
    rw [hr, he]
    cases e with
    | templateRedefinition other => exact absurd rfl (hne other)
    | _ => rfl
  cases h with
  | short e hne =>
    rw [hfailed e _ rfl hne]
    exact settles_of_evolves hw (.refl page)
  | refused e hp hi _ =>
    rw [hfailed _ _ rfl nofun]
    refine ⟨hgrown hp hi, fun hl => ⟨fun _ => List.nodup_nil, fun _ => ?_⟩⟩
    exact hi.allListed_of_error hmade.treelike (hmade.allListed hl)
  | taken hp hi _ =>
    obtain ⟨hreleased, hsame⟩ := tidies_releaseBelow page.document.size _ (hgrown hp hi)
    exact ⟨hreleased, fun hl => hsame.trans (hlisted rfl hp hi hl)⟩
  | done templates hp hi _ =>
    obtain ⟨hreleased, hsame⟩ := tidies_releaseBelow page.document.size _ (hgrown hp hi)
    refine ⟨⟨hreleased.tree, hreleased.rooted, hreleased.bound, hreleased.stacked⟩, fun hl => ?_⟩
    exact hsame.trans (hlisted rfl hp hi hl)

/-- One edit keeps a page well formed and, where no node is lost, loses one exactly if
it moves one twice. -/
theorem settles_apply {page : Page} (hw : page.WellFormed) (edit : Edit) :
    Settles page (left (apply edit page)) (Attempt.moved ⟨page, edit⟩) := by
  cases hc : edit.operandCount? with
  | none =>
    rw [Attempt.moved_of_operandCount? hc]
    exact settles_of_evolves hw (evolves_apply page hc)
  | some count =>
    cases edit with
    | appendChildren _ =>
      cases hc
      exact (inserting_appendChildren page count).settles hw rfl
        (fun e _ => by cases e <;> rfl) tidies_markParent
    | replaceWith id _ =>
      cases hc
      exact (inserting_replaceWith page id count).settles hw rfl
        (fun e _ => by cases e <;> rfl) (tidies_release id)
    | insertAfter id _ =>
      cases hc
      exact (inserting_insertAfter page id count).settles hw rfl
        (fun e _ => by cases e <;> rfl) tidies_id
    | insertBefore id _ =>
      cases hc
      exact (inserting_insertBefore page id count).settles hw rfl
        (fun e _ => by cases e <;> rfl) tidies_id
    | replacePlaceholder path _ =>
      cases hc
      exact (inserting_replacePlaceholder page path count).settles hw rfl
        (fun e _ => by cases e <;> rfl) tidies_id
    | saveTemplate name _ => exact settles_saveTemplate hw name _
    | _ => cases hc

/-! ## A run -/

/-- A page over a treelike document is well formed. -/
theorem wellFormed_ofDocument {doc : Document} (ht : doc.Treelike) (hr : Document.root < doc.size)
    (strict : Bool) : (ofDocument doc strict).WellFormed :=
  ⟨ht, hr, nofun, nofun⟩

theorem WellFormed.clearOperands {page : Page} (h : page.WellFormed) :
    page.clearOperands.WellFormed := ⟨h.tree, h.rooted, h.bound, nofun⟩

/-- A page stays well formed over a batch. -/
theorem WellFormed.afterBatch {page : Page} (h : page.WellFormed) (batch : List Edit) :
    (page.afterBatch batch).WellFormed :=
  applyFrom_induction (P := fun page (_ : Unit) => page.WellFormed) (f := fun u _ => u)
    (fun _ _ edit hw => (settles_apply hw edit).wellFormed) (fun _ _ hw => hw.clearOperands)
    batch 0 .zero page () h

/-- No node is lost, and so the walks down and up the page agree. -/
structure Whole (page : Page) : Prop where
  allListed : page.document.AllListed
  connected : ∀ n, n ∈ page.document.descendants Document.root ↔
    page.document.isConnected n = true

/-- A page whose nodes are all listed is whole. -/
theorem WellFormed.whole {page : Page} (h : page.WellFormed) (ha : page.document.AllListed) :
    page.Whole := ⟨ha, Document.mem_descendants_root_iff h.tree ha h.rooted⟩

/-- A batch that starts with no lost node loses one at some edit exactly if one of its
attempts moves a node twice. -/
theorem whole_attempts_iff {page : Page} (hw : page.WellFormed) (ha : page.document.AllListed)
    (batch : List Edit) :
    (∀ attempt ∈ attempts page batch, attempt.after.Whole) ↔
      ∀ attempt ∈ attempts page batch, attempt.moved.Nodup := by
  induction batch generalizing page with
  | nil => simp [attempts]
  | cons edit rest ih =>
    have hstep := settles_apply hw edit
    have hfirst : Whole (left (apply edit page)) ↔ (Attempt.moved ⟨page, edit⟩).Nodup := by
      rw [← hstep.allListed ha]
      exact ⟨Whole.allListed, hstep.wellFormed.whole⟩
    rw [attempts, List.forall_mem_cons, List.forall_mem_cons]
    rw [show Attempt.after ⟨page, edit⟩ = left (apply edit page) from rfl, hfirst]
    refine and_congr_right fun hn => ?_
    have hlisted := (hstep.allListed ha).mpr hn
    cases hr : apply edit page with
    | ok done reached =>
      rw [hr] at hstep hlisted
      exact ih hstep.wellFormed hlisted
    | error e reached => simp

/-- A batch whose attempts lose no node loses none. -/
theorem allListed_afterBatch {page : Page} (hw : page.WellFormed) (ha : page.document.AllListed)
    {batch : List Edit} (h : ∀ attempt ∈ attempts page batch, attempt.moved.Nodup) :
    (page.afterBatch batch).document.AllListed := by
  unfold afterBatch applyBatch
  generalize (0 : Nat) = index
  generalize Tally.zero = tally
  induction batch generalizing index tally page with
  | nil =>
    unfold applyFrom finish
    split
    · dsimp only
      split <;> exact ha
    · exact ha
  | cons edit rest ih =>
    have hstep := settles_apply hw edit
    unfold attempts at h
    obtain ⟨hn, hrest⟩ := List.forall_mem_cons.mp h
    have hlisted := (hstep.allListed ha).mpr hn
    unfold applyFrom
    cases hr : apply edit page with
    | ok done reached =>
      rw [hr] at hstep hlisted hrest
      exact ih hstep.wellFormed hlisted hrest _ _
    | error e reached =>
      rw [hr] at hlisted
      exact hlisted

/-- All pages that batches pass are whole exactly when no attempt moves a node twice. -/
theorem whole_passes_iff {page : Page} (hw : page.WellFormed) (ha : page.document.AllListed)
    (batches : List (List Edit)) :
    (∀ reached ∈ passes page batches, reached.Whole) ↔
      ∀ attempt ∈ allAttempts page batches, attempt.moved.Nodup := by
  have hwhole := hw.whole ha
  induction batches generalizing page with
  | nil => simp [passes, allAttempts, hwhole]
  | cons batch rest ih =>
    have hattempts := whole_attempts_iff hw ha batch
    rw [passes, allAttempts, List.forall_mem_append]
    simp only [List.forall_mem_cons, List.forall_mem_append, List.forall_mem_map]
    rw [hattempts]
    constructor
    · rintro ⟨⟨-, hn⟩, hrest⟩
      have hlisted := allListed_afterBatch hw ha hn
      have hnext := hw.afterBatch batch
      exact ⟨hn, (ih hnext hlisted (hnext.whole hlisted)).mp hrest⟩
    · rintro ⟨hn, hrest⟩
      have hlisted := allListed_afterBatch hw ha hn
      have hnext := hw.afterBatch batch
      exact ⟨⟨hwhole, hn⟩, (ih hnext hlisted (hnext.whole hlisted)).mpr hrest⟩

/-- Over the whole of any run from the blank page, every node with a parent is listed
by it, and the walk down from the root sees exactly the connected nodes, if and only
if no insertion that is carried out moves a node twice. -/
theorem no_node_lost_iff_moved_once (strict : Bool) (batches : List (List Edit)) :
    (∀ page ∈ passes (ofDocument .blank strict) batches,
      (∀ p c, page.document.parent? c = some p → c ∈ page.document.children p) ∧
      ∀ n, n ∈ page.document.descendants Document.root ↔ page.document.isConnected n = true) ↔
    ∀ attempt ∈ allAttempts (ofDocument .blank strict) batches, attempt.moved.Nodup := by
  have hw := wellFormed_ofDocument Document.treelike_blank (by decide) strict
  rw [← whole_passes_iff hw Document.allListed_blank]
  constructor
  · exact fun h page hm => ⟨(h page hm).1, (h page hm).2⟩
  · exact fun h page hm => ⟨(h page hm).allListed, (h page hm).connected⟩

/-- The body is pushed, and a paragraph is made and pushed again: the paragraph is appended
twice. It has the body for its parent and counts as connected, but no walk down finds it. -/
theorem appended_twice_is_lost :
    let page := afterBatches (ofDocument .blank true)
      [[.setNode 9 (.handle 3), .pushRoot 9, .createElement "p" 1, .pushRoot 1, .appendChildren 2]]
    page.document.parent? 4 = some 3 ∧ 4 ∉ page.document.children 3 ∧
      page.document.isConnected 4 = true ∧ 4 ∉ page.document.descendants Document.root := by
  decide +kernel

end Page

end PageHost
