import PageHost.Proofs.Document.Anchor
import PageHost.Proofs.Page.Cause
import PageHost.Proofs.Page.Reach
/-!
# Anchors of edits

Three edits insert nodes before a node that stands on the page: one puts them before it
and two put them in its place. These edits can stop half-way, with the nodes taken from
their places and the anchor gone from its own, and no other edit can. They stop exactly if
the parent of the anchor is among the nodes that are inserted, or does not list the anchor.
-/

namespace PageHost

/-- The edit has stopped half-way. -/
def EditError.isStop : EditError → Bool
  | .dom cause => cause.isStop
  | _ => false

/-- Plain errors stop no operation half-way. -/
theorem EditError.isStop_of_isPlain {e : EditError} (h : e.isPlain = true) : e.isStop = false := by
  cases e with
  | dom cause => cases cause <;> first | rfl | cases h
  | _ => rfl

namespace Page

/-- The node that an edit puts nodes before, or in the place of which it puts them. -/
def anchor? (page : Page) : Edit → Option Handle
  | .replaceWith id _ | .insertBefore id _ => page.bindings.lookup? id
  | .replacePlaceholder path _ =>
    match page.operands.slots with
    | [] => none
    | slot :: _ => page.document.atPath slot.node path
  | _ => none

/-- The edit takes nodes off the stack and comes to an anchor that slips. -/
def Slips (page : Page) (edit : Edit) (anchor : Handle) : Prop :=
  ∃ count nodes operands, edit.operandCount? = some count ∧
    page.operands.popMany count = .ok (nodes, operands) ∧
    anchor? { page with operands := operands } edit = some anchor ∧
    page.document.Slips anchor nodes

/-! ## One edit -/

/-- An id is looked up when it is bound. -/
theorem lookup_ok_iff (page : Page) (id : NodeId) (h : Handle) :
    lookup id page = .ok h page ↔ page.bindings.lookup? id = some h := by
  unfold lookup Bindings.lookup
  cases page.bindings.lookup? id with
  | none => exact ⟨nofun, nofun⟩
  | some node =>
    constructor
    · intro hr
      cases hr
      rfl
    · intro hr
      cases hr
      rfl

/-- A path leads to the anchor of its edit. -/
theorem atPath_ok_iff (page : Page) (path : List Nat) (count : Nat) (h : Handle) :
    atPath path page = .ok h page ↔ page.anchor? (.replacePlaceholder path count) = some h := by
  unfold anchor?
  cases hs : page.operands.slots with
  | nil =>
    have hrun : atPath path page = .error (.stackUnderflow 1 0) page :=
      run_bind_of_error (top_of_nil hs) _
    rw [hrun]
    exact ⟨nofun, nofun⟩
  | cons slot rest =>
    rw [atPath_of_top (top_of_slots hs) path]
    dsimp only
    cases page.document.atPath slot.node path with
    | none => exact ⟨nofun, nofun⟩
    | some node =>
      constructor
      · intro hr
        cases hr
        rfl
      · intro hr
        cases hr
        rfl

/-- Nodes are taken off the stack, a place is found for them, and they are put there: such an edit
stops exactly if the insertion does. -/
theorem stops_of_steps (page : Page) (count : Nat) {find : Step Handle}
    {change : Handle → List Handle → Document.Change Unit} {rest : Step Tally} {anchor : Handle}
    (hreads : Reads find) (hfind : FailsIn (fun e => e.isStop = false) find)
    (hrest : ∀ page, ∃ tally after, rest page = .ok tally after) :
    failure ((do
      let nodes ← popMany count
      let h ← find
      onDocument (change h nodes)
      rest : Step Tally) page) = some (.dom (.unlistedAnchor anchor)) ↔
    ∃ nodes operands h, page.operands.popMany count = .ok (nodes, operands) ∧
      find { page with operands := operands } = .ok h { page with operands := operands } ∧
      failure (change h nodes page.document) = some (.unlistedAnchor anchor) := by
  cases hp : page.operands.popMany count with
  | error e =>
    rw [run_bind_of_error (popMany_of_error hp), popMany_error hp]
    exact ⟨nofun, fun ⟨_, _, _, he, _⟩ => nomatch he⟩
  | ok popped =>
    obtain ⟨nodes, operands⟩ := popped
    rw [run_bind_of_ok (popMany_of_ok hp)]
    rcases hreads { page with operands := operands } with ⟨e, he⟩ | ⟨h, hh⟩
    · rw [run_bind_of_error he]
      constructor
      · intro hstop
        cases hstop
        cases hfind _ _ _ he
      · rintro ⟨nodes', operands', h, hpop, hok, -⟩
        cases hpop
        rw [he] at hok
        cases hok
    · rw [run_bind_of_ok hh]
      have hsame : failure (((do
          onDocument (change h nodes)
          rest : Step Tally)) { page with operands := operands }) =
          (failure (change h nodes page.document)).map .dom := by
        cases hc : change h nodes page.document with
        | error e doc =>
          rw [run_bind_of_error (onDocument_of_error { page with operands := operands } hc)]
          rfl
        | ok u doc =>
          obtain ⟨tally, after, hr⟩ := hrest { page with operands := operands, document := doc }
          rw [run_bind_of_ok (onDocument_of_ok { page with operands := operands } hc), hr]
          rfl
      rw [hsame]
      constructor
      · intro hstop
        obtain ⟨cause, hc, he⟩ := Option.map_eq_some_iff.mp hstop
        cases he
        exact ⟨nodes, operands, h, rfl, hh, hc⟩
      · rintro ⟨nodes', operands', h', hpop, hok, hstop⟩
        cases hpop
        rw [hh] at hok
        cases hok
        rw [hstop]
        rfl

/-- The top of the stack is refused without stopping half-way. -/
theorem failsIn_top : FailsIn (fun e => e.isStop = false) top := by
  intro page e after he
  cases hs : page.operands.slots with
  | nil =>
    rw [top_of_nil hs] at he
    cases he
    rfl
  | cons slot rest =>
    rw [top_of_slots hs] at he
    cases he

/-- A path is refused without stopping half-way. -/
theorem failsIn_atPath (path : List Nat) : FailsIn (fun e => e.isStop = false) (atPath path) := by
  apply failsIn_bind failsIn_top
  intro node page e after he
  dsimp only at he
  split at he
  · cases he
    rfl
  · cases he

/-- An edit that inserts at an anchor stops exactly if the anchor slips. -/
theorem stops_at_anchor {page : Page} {edit : Edit} {count : Nat} {find : Step Handle}
    {change : Handle → List Handle → Document.Change Unit} {rest : Step Tally} {anchor : Handle}
    (hcount : edit.operandCount? = some count) (hreads : Reads find)
    (hfind : FailsIn (fun e => e.isStop = false) find)
    (hanchor : ∀ (page : Page) h, find page = .ok h page ↔ page.anchor? edit = some h)
    (hchange : ∀ h nodes, failure (change h nodes page.document) = some (.unlistedAnchor anchor) ↔
      anchor = h ∧ page.document.Slips h nodes)
    (hrest : ∀ page, ∃ tally after, rest page = .ok tally after)
    (hrun : apply edit = do
      let nodes ← popMany count
      let h ← find
      onDocument (change h nodes)
      rest) :
    failure (apply edit page) = some (.dom (.unlistedAnchor anchor)) ↔ page.Slips edit anchor := by
  rw [hrun, stops_of_steps page count hreads hfind hrest]
  constructor
  · rintro ⟨nodes, operands, h, hp, hh, hstop⟩
    obtain ⟨rfl, hs⟩ := (hchange h nodes).mp hstop
    exact ⟨count, nodes, operands, hcount, hp, (hanchor _ _).mp hh, hs⟩
  · rintro ⟨count', nodes, operands, hc, hp, ha, hs⟩
    rw [hcount] at hc
    cases hc
    exact ⟨nodes, operands, anchor, hp, (hanchor _ _).mpr ha, (hchange anchor nodes).mpr ⟨rfl, hs⟩⟩

/-- A step that may lack operands and else fails with other errors does not stop half-way. -/
theorem Demands.not_stops {step : Step Tally} {page : Page} {need : Nat}
    (h : Demands (fun e => e.isStop = false) step page need) (anchor : Handle) :
    failure (step page) ≠ some (.dom (.unlistedAnchor anchor)) := by
  intro hstop
  have he := eq_error_of_failure hstop
  by_cases hs : page.operands.size < need
  · obtain ⟨requested, available, after, hshort⟩ := h.short hs
    rw [hshort] at he
    cases he
  · cases h.enough (Nat.le_of_not_lt hs) _ _ he

/-- An edit on a well formed page stops half-way exactly if it comes to an anchor that slips. -/
theorem stops_iff_slips {page : Page} (hw : page.WellFormed) (edit : Edit) (anchor : Handle) :
    failure (apply edit page) = some (.dom (.unlistedAnchor anchor)) ↔ page.Slips edit anchor := by
  have hplain : ∀ e : EditError, e.isPlain = true → e.isStop = false :=
    fun _ => EditError.isStop_of_isPlain
  have hown : ∀ e : EditError, e.isOwn = true → e.isStop = false :=
    fun _ he => EditError.isStop_of_isPlain (EditError.isPlain_of_isOwn he)
  have hdone : ∀ page : Page, ∃ tally after, (pure .plain : Step Tally) page = .ok tally after :=
    fun page => ⟨_, page, rfl⟩
  have hnone : edit.operandCount? = none →
      (failure (apply edit page) = some (.dom (.unlistedAnchor anchor)) ↔
        page.Slips edit anchor) := by
    intro hc
    constructor
    · have hdemands := demands_apply hplain page edit fun hne => absurd hc hne
      exact fun hstop => absurd hstop (hdemands.not_stops anchor)
    · rintro ⟨count, _, _, hcount, -⟩
      rw [hc] at hcount
      cases hcount
  cases edit with
  | replaceWith id count =>
    exact stops_at_anchor rfl (reads_lookup id) (failsIn_lookup hown id)
      (fun page h => lookup_ok_iff page id h)
      (fun h nodes => Document.replaceWith_stops_iff hw.tree h nodes)
      (fun page => ⟨.removal, (page.release id).2, rfl⟩) rfl
  | insertBefore id count =>
    exact stops_at_anchor rfl (reads_lookup id) (failsIn_lookup hown id)
      (fun page h => lookup_ok_iff page id h)
      (fun h nodes => Document.insertBefore_stops_iff hw.tree h nodes) hdone rfl
  | replacePlaceholder path count =>
    exact stops_at_anchor rfl (reads_atPath path) (failsIn_atPath path)
      (fun page h => atPath_ok_iff page path count h)
      (fun h nodes => Document.replaceWith_stops_iff hw.tree h nodes) hdone rfl
  | insertAfter id count =>
    have hsteps := @stops_of_steps page count _ Document.insertAfter _ anchor
      (reads_lookup id) (failsIn_lookup hown id) hdone
    refine hsteps.trans ⟨?_, fun ⟨_, _, _, _, _, ha, _⟩ => nomatch ha⟩
    rintro ⟨nodes, operands, h, -, -, hstop⟩
    exact absurd hstop (Document.insertAfter_not_stops hw.tree h nodes)
  | appendChildren count =>
    refine (stops_of_steps page count reads_top failsIn_top fun page => ⟨.plain, _, rfl⟩).trans
      ⟨?_, fun ⟨_, _, _, _, _, ha, _⟩ => nomatch ha⟩
    rintro ⟨nodes, operands, h, -, -, hstop⟩
    exact absurd hstop (Document.appendChildren_not_stops page.document h nodes)
  | saveTemplate name count =>
    have hgather : ∀ fragment roots doc e after,
        Document.appendChildren fragment roots doc = .error e after → e.isStop = false := by
      intro fragment roots doc e after he
      cases e with
      | unlistedAnchor anchor =>
        have hstop : failure (Document.appendChildren fragment roots doc) =
            some (.unlistedAnchor anchor) := by
          rw [he]
          rfl
        exact absurd hstop (Document.appendChildren_not_stops doc fragment roots)
      | _ => rfl
    have hdemands : Demands (fun e => e.isStop = false) (apply (.saveTemplate name count)) page
        count := (demands_saveTemplate hplain hgather page name count).bind fun _ => failsIn_pure _
    exact ⟨fun hstop => absurd hstop (hdemands.not_stops anchor),
      fun ⟨_, _, _, _, _, ha, _⟩ => nomatch ha⟩
  | _ => exact hnone rfl

/-! ## A run -/

/-- An edit of a run from the blank page stops half-way exactly if the parent of its anchor is one
of the nodes that it inserts or does not list the anchor. -/
theorem edits_stop_iff_anchor_slips (strict : Bool) (batches : List (List Edit)) :
    ∀ attempt ∈ allAttempts (ofDocument .blank strict) batches, ∀ anchor,
      failure (apply attempt.edit attempt.page) = some (.dom (.unlistedAnchor anchor)) ↔
        attempt.page.Slips attempt.edit anchor := by
  intro attempt hm anchor
  have hblank := wellFormed_ofDocument Document.treelike_blank (by decide) strict
  have hw : attempt.page.WellFormed :=
    allAttempts_invariant (P := WellFormed) (fun _ edit hw => (settles_apply hw edit).wellFormed)
      (fun _ hw => hw.clearOperands) hblank batches attempt hm
  exact stops_iff_slips hw attempt.edit anchor

/-- A second template of the same structure leaves its fragment 7 without a use, with the
paragraph 6 inside. The last edit puts that fragment before its own paragraph. -/
def ownChildBatch : List Edit :=
  [.createElement "p" 1, .saveTemplate "card" 1, .createElement "p" 1, .saveTemplate "card" 1,
    .setNode 3 (.handle 7), .setNode 4 (.handle 6), .pushRoot 3, .insertBefore 4 1]

/-- A fragment that is put before its own child stops the batch half-way. -/
theorem fragment_before_own_child :
    failure (applyBatch ownChildBatch (ofDocument .blank false)) =
      some ⟨7, "insert_before", .dom (.unlistedAnchor 6)⟩ := by decide +kernel

/-- One of these edits comes to the anchor that slips. -/
theorem own_child_slips :
    ∃ attempt ∈ allAttempts (ofDocument .blank false) [ownChildBatch],
      attempt.page.Slips attempt.edit 6 := by
  have hlast : ((allAttempts (ofDocument .blank false) [ownChildBatch])[7]?.map fun attempt =>
      failure (apply attempt.edit attempt.page)) = some (some (.dom (.unlistedAnchor 6))) := by
    decide +kernel
  obtain ⟨attempt, hget, hstop⟩ := Option.map_eq_some_iff.mp hlast
  have hmem := List.mem_of_getElem? hget
  exact ⟨attempt, hmem, (edits_stop_iff_anchor_slips false _ attempt hmem 6).mp hstop⟩

end Page

end PageHost
