import PageHost.Proofs.Page.Reach
/-!
# Batches in a row

Where a batch ends is felt on a strict page only: there its end takes everything off
the stack and reports what is left over. So one batch does what its two halves do as
batches in a row, on a lenient page always and on a strict one if the first half leaves
nothing on the stack. The tallies add up, and the positions of errors in the second half
are counted from the start of the first.
-/

namespace PageHost.Page

/-! ## Strict and lenient pages -/

/-- Forgetting ids does not change whether the stack is checked. -/
theorem strict_forgetAll (page : Page) (ids : List NodeId) :
    (page.forgetAll ids).strict = page.strict := by
  induction ids generalizing page with
  | nil => rfl
  | cons id rest ih => exact ih (page.forget id)

theorem strict_release (page : Page) (id : NodeId) : (page.release id).2.strict = page.strict := by
  cases hl : page.bindings.lookup? id with
  | none => rw [release_of_unbound hl]
  | some node =>
    rw [release_of_bound hl]
    exact strict_forgetAll _ _

theorem strict_finish (edit : Edit) (page : Page) : (edit.finish page).strict = page.strict := by
  unfold Edit.finish
  split
  · rfl
  · exact strict_release page _
  · rfl

/-- No edit makes a strict page lenient or a lenient one strict. -/
theorem strict_apply (page : Page) (edit : Edit) :
    (left (apply edit page)).strict = page.strict := by
  have hends := ends_apply page edit
  generalize apply edit page = result at hends ⊢
  cases hends with
  | moved id value _ _ =>
    show Page.strict (if _ then _ else _) = page.strict
    split <;> rfl
  | inserted _ _ _ _ => exact strict_finish edit _
  | removed id _ _ _ => exact strict_release page id
  | missing id _ _ => exact strict_release page id
  | taken _ _ _ _ _ => exact strict_forgetAll _ _
  | known _ _ _ _ _ => exact strict_forgetAll _ _
  | registered _ _ _ _ _ _ => exact strict_forgetAll _ _
  | _ => rfl

/-- No edit changes whether the stack is checked. -/
theorem strict_applyEach {edits : List Edit} {page reached : Page} {done : Tally}
    (h : applyEach edits page = .ok done reached) : reached.strict = page.strict :=
  applyEach_invariant (P := fun p => p.strict = page.strict)
    (fun p edit hp => (strict_apply p edit).trans hp) h rfl

/-! ## Positions and counts -/

/-- What a batch gives back when it comes after other edits: positions and counts go on from
theirs. -/
def counted (before : Nat) (done : Tally) :
    EStateM.Result BatchError Page Tally → EStateM.Result BatchError Page Tally
  | .ok later page => .ok (done.add later) page
  | .error e page => .error { e with index := before + e.index } page

/-- Two batches in a row, of which the second is carried out if the first succeeds. -/
def applyInTurn (first second : List Edit) : EStateM BatchError Page Tally := fun page =>
  match applyBatch first page with
  | .ok done middle => counted first.length done (applyBatch second middle)
  | .error e after => .error e after

/-- Starting at a later position and with more done shifts what a batch gives back. -/
theorem applyFrom_add (before index : Nat) (done tally : Tally) (edits : List Edit) (page : Page) :
    applyFrom (before + index) (done.add tally) edits page =
      counted before done (applyFrom index tally edits page) := by
  induction edits generalizing index tally page with
  | nil =>
    unfold applyFrom finish
    by_cases hs : page.strict = true
    · rw [if_pos hs, if_pos hs]
      dsimp only
      split <;> rfl
    · rw [if_neg hs, if_neg hs]
      rfl
  | cons edit rest ih =>
    rw [applyFrom_cons, applyFrom_cons]
    cases apply edit page with
    | ok one middle =>
      have hrest := ih (index + 1) (tally.add one) middle
      rw [← Tally.add_assoc, ← Nat.add_assoc] at hrest
      exact hrest
    | error e failed => rfl

/-- After edits that are carried out the rest of a batch goes on from the page that they leave. -/
theorem applyFrom_append_of_applyEach {first : List Edit} {page middle : Page} {done : Tally}
    (h : applyEach first page = .ok done middle) (rest : List Edit) (index : Nat) (tally : Tally) :
    applyFrom index tally (first ++ rest) page =
      applyFrom (index + first.length) (tally.add done) rest middle := by
  induction first generalizing page index tally done with
  | nil =>
    cases h
    rw [Tally.add_zero]
    rfl
  | cons edit more ih =>
    obtain ⟨one, next, later, hone, hmore, rfl⟩ := applyEach_cons_ok h
    have hrest := ih hmore (index + 1) (tally.add one)
    rw [Tally.add_assoc, Nat.add_assoc, Nat.add_comm 1] at hrest
    rw [List.cons_append, applyFrom_cons, hone]
    exact hrest

/-- Edits that fail do so at the first of them or after it. -/
theorem applyEach_cons_error {edit : Edit} {rest : List Edit} {page failed : Page} {e : EditError}
    (h : applyEach (edit :: rest) page = .error e failed) :
    apply edit page = .error e failed ∨
      ∃ done middle, apply edit page = .ok done middle ∧
        applyEach rest middle = .error e failed := by
  cases hr : apply edit page with
  | error cause stopped =>
    have hrun : applyEach (edit :: rest) page = .error cause stopped := run_bind_of_error hr _
    rw [hrun] at h
    cases h
    exact Or.inl rfl
  | ok done middle =>
    refine Or.inr ⟨done, middle, rfl, ?_⟩
    cases hm : applyEach rest middle with
    | ok later reached =>
      rw [applyEach_cons hr hm] at h
      cases h
    | error cause stopped =>
      have hrest : (applyEach rest >>= fun later => pure (done.add later) : Step Tally) middle =
          .error cause stopped := run_bind_of_error hm _
      have hrun : applyEach (edit :: rest) page = .error cause stopped :=
        (run_bind_of_ok hr _).trans hrest
      rw [hrun] at h
      exact h

/-- A batch that fails at an edit fails for the reason of that edit and does not come to the edits
after it. -/
theorem applyFrom_append_of_failed {first : List Edit} {page failed : Page} {e : EditError}
    (h : applyEach first page = .error e failed) (index : Nat) (tally : Tally) :
    ∃ cause : BatchError, cause.cause = e ∧
      ∀ rest, applyFrom index tally (first ++ rest) page = .error cause failed.clearOperands := by
  induction first generalizing page index tally with
  | nil => cases h
  | cons edit more ih =>
    rcases applyEach_cons_error h with hone | ⟨one, next, hone, hmore⟩
    · refine ⟨⟨index, edit.opcode, e⟩, rfl, fun rest => ?_⟩
      rw [List.cons_append, applyFrom_cons, hone]
    · obtain ⟨cause, hcause, hrun⟩ := ih hmore (index + 1) (tally.add one)
      refine ⟨cause, hcause, fun rest => ?_⟩
      rw [List.cons_append, applyFrom_cons, hone]
      exact hrun rest

/-- One batch does what its halves do in a row, if the page is lenient or the first half leaves
nothing on the stack: the same page, the sum of the tallies, the same errors at the same
positions of the whole. -/
theorem applyBatch_append (first second : List Edit) (page : Page)
    (h : page.strict = true → ∀ done middle, applyEach first page = .ok done middle →
      middle.operands.slots = []) :
    applyBatch (first ++ second) page = applyInTurn first second page := by
  unfold applyInTurn applyBatch
  cases hr : applyEach first page with
  | error e failed =>
    obtain ⟨cause, -, hrun⟩ := applyFrom_append_of_failed hr 0 .zero
    have hfirst := hrun []
    rw [List.append_nil] at hfirst
    rw [hfirst, hrun second]
  | ok done middle =>
    have hwhole := applyFrom_append_of_applyEach hr second 0 .zero
    have hfirst := applyFrom_of_applyEach hr 0 .zero
    have hclear : middle.strict = true → middle.operands.slots = [] := by
      intro hs
      rw [strict_applyEach hr] at hs
      exact h hs done middle hr
    have hshift := applyFrom_add first.length 0 done .zero second middle
    rw [Tally.zero_add, Nat.zero_add] at hwhole hfirst
    rw [Tally.add_zero, Nat.add_zero] at hshift
    rw [hwhole, hfirst, finish_of_clear hclear, hshift]

/-- A paragraph is made and taken off the stack, and a second batch leaves an element behind: the
strict page reports it at the same position as one batch of three edits does. -/
theorem applyBatch_append_residue :
    let page := ofDocument .blank true
    let first : List Edit := [.createElement "p" 1, .popRoot]
    let second : List Edit := [.createElement "q" 2]
    (page.strict = true → ∀ done middle, applyEach first page = .ok done middle →
      middle.operands.slots = []) ∧
    applyBatch (first ++ second) page = applyInTurn first second page ∧
    failure (applyInTurn first second page) = some ⟨3, "end_of_batch", .residualStack 1⟩ := by
  intro page first second
  have hempty : page.strict = true → ∀ done middle, applyEach first page = .ok done middle →
      middle.operands.slots = [] := by
    intro _ done middle h
    have hslots : (left (applyEach first page)).operands.slots = [] := by decide +kernel
    rw [h] at hslots
    exact hslots
  exact ⟨hempty, applyBatch_append first second page hempty, by decide +kernel⟩

end PageHost.Page
