import PageHost.Proofs.Page.Cause
import PageHost.Proofs.Page.Regroup
/-!
# The stack effect of edits

What an edit does to the operand stack can be read off the edit alone: how many entries
it needs, how many it takes off and puts on, and which one it marks as a parent. Nodes,
bindings and templates decide whether an edit is carried out and never what becomes of
the stack. So the height and the marks of the stack after any number of edits are known
before the first of them is applied, and with them which edit finds too little on the
stack and what is left over at the end of a batch.
-/

namespace PageHost

/-- Which entries of the stack are marked as parents, its top first. -/
def Operands.marks (stack : Operands) : List Bool := stack.slots.map (·.isParent)

/-- The error is about the height of the stack. -/
def EditError.isStack : EditError → Bool
  | .stackUnderflow .. | .residualStack _ => true
  | _ => false

namespace Edit

/-- The marks with the top entry marked as a parent. -/
def markTop : List Bool → List Bool
  | [] => []
  | _ :: rest => true :: rest

/-- The marks that an edit makes of those that it finds. -/
def effect : Edit → List Bool → List Bool
  | .createElement .., marks | .createElementNs .., marks | .createTextNode .., marks
  | .createPlaceholder _, marks | .loadTemplate .., marks | .pushRoot _, marks => false :: marks
  | .popRoot, marks => marks.drop 1
  | .appendChildren count, marks => markTop (marks.drop count)
  | .replaceWith _ count, marks | .insertAfter _ count, marks | .insertBefore _ count, marks
  | .saveTemplate _ count, marks | .replacePlaceholder _ count, marks => marks.drop count
  | _, marks => marks

/-- The marks that edits one after the other make of those that they find. -/
def effects (edits : List Edit) (marks : List Bool) : List Bool :=
  edits.foldl (fun marks edit => edit.effect marks) marks

end Edit

/-- Every operand has a mark. -/
theorem Operands.length_marks (stack : Operands) : stack.marks.length = stack.size :=
  List.length_map ..

/-- The operands left over are those without a mark. -/
theorem Operands.unconsumed_eq (stack : Operands) : stack.unconsumed = stack.marks.count false := by
  unfold unconsumed marks
  rw [List.count, List.countP_map]
  apply List.countP_congr
  intro slot _
  simp

/-- Marking a parent marks the top of the stack. -/
theorem Operands.marks_markParent (stack : Operands) :
    stack.markParent.marks = Edit.markTop stack.marks := by
  unfold markParent marks
  cases h : stack.slots with
  | nil => simp [h, Edit.markTop]
  | cons slot rest => rfl

namespace Page

/-! ## What becomes of the stack -/

theorem operands_release (page : Page) (id : NodeId) :
    (page.release id).2.operands = page.operands := by
  cases hl : page.bindings.lookup? id with
  | none => rw [release_of_unbound hl]
  | some node =>
    rw [release_of_bound hl]
    exact operands_forgetAll _ _

/-- Taking off operands takes off their marks. -/
theorem marks_popMany {stack rest : Operands} {count : Nat} {nodes : List Handle}
    (h : stack.popMany count = .ok (nodes, rest)) : rest.marks = stack.marks.drop count := by
  obtain ⟨-, rfl⟩ := popMany_ok h
  exact List.map_drop ..

/-- An edit that is carried out has its effect on the marks, whatever else it finds. -/
theorem marks_apply {page after : Page} {edit : Edit} {done : Tally}
    (h : apply edit page = .ok done after) :
    after.operands.marks = edit.effect page.operands.marks := by
  have hends := ends_apply page edit
  rw [h] at hends
  cases hends with
  | created hid _ _ _ =>
    cases edit with
    | createElement _ _ | createElementNs _ _ _ | createTextNode _ _ | createPlaceholder _
    | loadTemplate _ _ _ => rfl
    | _ => cases hid
  | assigned _ _ _ _ _ => rfl
  | seeded _ _ _ _ _ => rfl
  | moved id value _ _ => split <;> rfl
  | pushed _ _ => rfl
  | popped hp => exact marks_popMany hp
  | written hid _ _ =>
    cases edit with
    | setText _ _ | setAttribute _ _ _ _ | removeAttribute _ _ _ => rfl
    | _ => cases hid
  | inserted _ hp hplace _ =>
    have hrest := marks_popMany hp
    cases hplace with
    | append count _ =>
      refine (Operands.marks_markParent _).trans ?_
      rw [hrest]
      rfl
    | replace id count _ =>
      refine (congrArg Operands.marks (operands_release _ id)).trans ?_
      exact hrest
    | after _ _ _ | before _ _ _ | placeholder _ _ _ => exact hrest
  | absent _ _ => rfl
  | removed id _ _ _ => exact congrArg Operands.marks (operands_release page id)
  | listened _ _ _ _ => rfl
  | unlistened _ _ => rfl
  | known _ _ hp _ _ =>
    exact (congrArg Operands.marks (operands_forgetAll _ _)).trans (marks_popMany hp)
  | registered _ _ _ hp _ _ =>
    exact (congrArg Operands.marks (operands_forgetAll _ _)).trans (marks_popMany hp)

/-- The marks after edits are what the edits make of those before. -/
theorem marks_applyEach {edits : List Edit} {page reached : Page} {done : Tally}
    (h : applyEach edits page = .ok done reached) :
    reached.operands.marks = Edit.effects edits page.operands.marks := by
  induction edits generalizing page done with
  | nil =>
    cases h
    rfl
  | cons edit rest ih =>
    obtain ⟨one, middle, later, hone, hmore, -⟩ := applyEach_cons_ok h
    rw [ih hmore, marks_apply hone]
    rfl

/-! ## Which edits find too little -/

/-- Whether an edit fails because of the stack depends on its height and on what the edit needs. -/
theorem demands_stack (page : Page) (edit : Edit) :
    Demands (fun e => e.isStack = false) (apply edit) page edit.need :=
  demands_apply (fun e he => by cases e <;> first | rfl | cases he) page edit fun _ _ => rfl

/-- No edit reports entries that are left over. -/
theorem apply_ne_residualStack {page failed : Page} {edit : Edit} {depth : Nat} :
    apply edit page ≠ .error (.residualStack depth) failed := by
  intro he
  have hdemands := demands_stack page edit
  by_cases hs : page.operands.size < edit.need
  · obtain ⟨requested, available, after, hshort⟩ := hdemands.short hs
    rw [he] at hshort
    cases hshort
  · have hstack := hdemands.enough (Nat.le_of_not_lt hs) _ failed he
    cases hstack

/-- No edit reports operands that are left over. -/
theorem applyEach_ne_residualStack {edits : List Edit} {page failed : Page} {depth : Nat} :
    applyEach edits page ≠ .error (.residualStack depth) failed := by
  induction edits generalizing page with
  | nil => exact nofun
  | cons edit rest ih =>
    intro h
    rcases applyEach_cons_error h with hone | ⟨one, next, -, hmore⟩
    · exact apply_ne_residualStack hone
    · exact ih hmore

/-- An edit fails for want of operands exactly if there are fewer than it needs. -/
theorem underflow_iff (page : Page) (edit : Edit) :
    (∃ requested available failed,
      apply edit page = .error (.stackUnderflow requested available) failed) ↔
      page.operands.size < edit.need := by
  have hdemands := demands_stack page edit
  constructor
  · rintro ⟨requested, available, failed, he⟩
    apply Nat.lt_of_not_le
    intro hs
    have hstack := hdemands.enough hs _ failed he
    cases hstack
  · exact hdemands.short

/-! ## The end of a batch -/

/-- A strict page reports what is left over if all edits have been carried out. -/
theorem residualStack_iff {page : Page} (hs : page.strict = true) (edits : List Edit)
    (depth : Nat) :
    (∃ e after, applyBatch edits page = .error e after ∧ e.cause = .residualStack depth) ↔
      ∃ done reached, applyEach edits page = .ok done reached ∧
        0 < depth ∧ reached.operands.unconsumed = depth := by
  unfold applyBatch
  cases hr : applyEach edits page with
  | error cause failed =>
    obtain ⟨e, he, hrun⟩ := applyFrom_append_of_failed hr 0 .zero
    have hbatch := hrun []
    rw [List.append_nil] at hbatch
    rw [hbatch]
    constructor
    · rintro ⟨e', after, h, hdepth⟩
      cases h
      rw [hdepth] at he
      rw [← he] at hr
      exact absurd hr applyEach_ne_residualStack
    · rintro ⟨done, reached, h, -⟩
      cases h
  | ok done reached =>
    have hstrict : reached.strict = true := (strict_applyEach hr).trans hs
    rw [applyFrom_of_applyEach hr]
    unfold finish
    rw [if_pos hstrict]
    dsimp only
    constructor
    · rintro ⟨e, after, h, hdepth⟩
      split at h
      · rename_i hpos
        cases h
        cases hdepth
        exact ⟨done, reached, rfl, hpos, rfl⟩
      · cases h
    · rintro ⟨done', reached', h, hpos, hdepth⟩
      cases h
      rw [hdepth, if_pos hpos]
      exact ⟨_, _, rfl, rfl⟩

/-- Nothing is on the stack of a strict page after a batch. -/
theorem slots_afterBatch {page : Page} (hs : page.strict = true) (edits : List Edit) :
    (page.afterBatch edits).operands.slots = [] := by
  apply slots_applyFrom
  exact afterBatch_invariant (P := fun p => p.strict = true)
    (fun p edit hp => (strict_apply p edit).trans hp) (fun _ hp => hp) hs edits

/-- Height and marks of the stack after edits follow from the edits and from the marks that they
find, and so does which edit finds too little on it. A strict page has an empty stack after each
batch, and reports as left over the entries that the edits leave unmarked. -/
theorem stack_discipline (page : Page) (edits : List Edit) :
    (∀ done reached, applyEach edits page = .ok done reached →
      reached.operands.marks = Edit.effects edits page.operands.marks ∧
      ∀ edit, (∃ requested available failed,
          apply edit reached = .error (.stackUnderflow requested available) failed) ↔
        (Edit.effects edits page.operands.marks).length < edit.need) ∧
    (page.strict = true → (page.afterBatch edits).operands.slots = [] ∧
      ∀ depth,
        (∃ e after, applyBatch edits page = .error e after ∧ e.cause = .residualStack depth) ↔
          (∃ done reached, applyEach edits page = .ok done reached) ∧ 0 < depth ∧
            (Edit.effects edits page.operands.marks).count false = depth) := by
  refine ⟨fun done reached h => ?_, fun hs => ⟨slots_afterBatch hs edits, fun depth => ?_⟩⟩
  · have hmarks := marks_applyEach h
    refine ⟨hmarks, fun edit => ?_⟩
    rw [underflow_iff, ← hmarks, Operands.length_marks]
  · rw [residualStack_iff hs]
    constructor
    · rintro ⟨done, reached, h, hpos, hdepth⟩
      rw [← marks_applyEach h, ← Operands.unconsumed_eq]
      exact ⟨⟨done, reached, h⟩, hpos, hdepth⟩
    · rintro ⟨⟨done, reached, h⟩, hpos, hdepth⟩
      rw [← marks_applyEach h, ← Operands.unconsumed_eq] at hdepth
      exact ⟨done, reached, h, hpos, hdepth⟩

end Page

end PageHost
