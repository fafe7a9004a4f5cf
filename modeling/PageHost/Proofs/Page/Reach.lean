import PageHost.Proofs.Page.Endings
import PageHost.Proofs.Page.Lost
/-!
# Pages that runs come to

A page is reached by batches from a page over a document that any operations have
built and that may have root listeners of its own. What holds of those pages and is
kept by every edit and by the emptying of the stack holds of every page that is
reached.

`applyEach` carries out edits without the end of a batch. A batch does what its
edits do one after the other up to the first that fails, and nothing after it.
-/

namespace PageHost

namespace Document

/-- The document with root listeners for some events. -/
def listening (doc : Document) (names : List String) : Document :=
  names.foldl (fun doc name => (doc.installRootListener name).2) doc

/-- Listening for events touches no node. -/
theorem nodes_listening (doc : Document) (names : List String) :
    (doc.listening names).nodes = doc.nodes := by
  induction names generalizing doc with
  | nil => rfl
  | cons name rest ih => exact (ih _).trans (Delegation.nodes_install doc name)

/-- The root is still there after operations on the blank page. -/
theorem root_lt_afterOperations (operations : List Operation) :
    root < (afterOperations operations).size := by
  have hrun : ∀ doc : Document, doc.Treelike → root < doc.size →
      root < (operations.foldl Operation.run doc).size := by
    induction operations with
    | nil => exact fun _ _ h => h
    | cons operation rest ih =>
      intro doc ht h
      have hle := size_le_run ht operation
      exact ih _ (treelike_run ht operation) (Nat.lt_of_lt_of_le h hle)
  exact hrun blank treelike_blank (by decide)

end Document

namespace Page

/-! ## Reached pages -/

/-- The pages that batches come to, successful or not. -/
inductive Reached : Page → Prop where
  | start (operations : List Document.Operation) (names : List String) (strict : Bool) :
      Reached (ofDocument ((Document.afterOperations operations).listening names) strict)
  | batch {page : Page} (edits : List Edit) : Reached page → Reached (page.afterBatch edits)

/-- What every edit and the emptying of the stack keep is kept by a batch. -/
theorem afterBatch_invariant {P : Page → Prop}
    (hstep : ∀ page edit, P page → P (left (apply edit page)))
    (hclear : ∀ page : Page, P page → P page.clearOperands) {page : Page} (h : P page)
    (edits : List Edit) : P (page.afterBatch edits) :=
  applyFrom_induction (P := fun page (_ : Unit) => P page) (f := fun u _ => u)
    (fun page _ edit h => hstep page edit h) (fun page _ h => hclear page h) edits 0 .zero page () h

/-- What holds at the start and is kept by every edit and by the emptying of the stack holds of
every reached page. -/
theorem Reached.invariant {P : Page → Prop} {page : Page} (hr : page.Reached)
    (hstart : ∀ operations names strict,
      P (ofDocument ((Document.afterOperations operations).listening names) strict))
    (hstep : ∀ page edit, P page → P (left (apply edit page)))
    (hclear : ∀ page : Page, P page → P page.clearOperands) : P page := by
  induction hr with
  | start operations names strict => exact hstart operations names strict
  | batch edits _ ih => exact afterBatch_invariant hstep hclear ih edits

/-- A page that is reached stays reached over batches. -/
theorem Reached.afterBatches {page : Page} (hr : page.Reached) (batches : List (List Edit)) :
    (page.afterBatches batches).Reached := by
  induction batches generalizing page with
  | nil => exact hr
  | cons edits rest ih => exact ih (hr.batch edits)

/-- Reached pages are well formed. -/
theorem Reached.wellFormed {page : Page} (hr : page.Reached) : page.WellFormed := by
  apply hr.invariant
  · intro operations names strict
    have ha := Document.alike_of_nodes
      (Document.nodes_listening (Document.afterOperations operations) names)
    have ht := Document.treelike_foldl_run Document.treelike_blank operations
    apply wellFormed_ofDocument (ha.treelike ht)
    rw [ha.size]
    exact Document.root_lt_afterOperations operations
  · exact fun page edit hw => (settles_apply hw edit).wellFormed
  · exact fun page hw => hw.clearOperands

/-- An edit keeps the two directions of the bindings inverse. -/
theorem sound_apply {page : Page} (hs : page.bindings.Sound) (edit : Edit) :
    (left (apply edit page)).bindings.Sound := by
  by_cases he : edit.isListening = true
  · cases edit with
    | newEventListener name id handler =>
      rcases apply_newEventListener page name id handler with ⟨e, hrun⟩ | ⟨-, hrun⟩
      · rw [hrun]
        exact hs
      · rw [hrun]
        exact hs
    | removeEventListener id name => exact hs
    | _ => cases he
  · obtain ⟨ids, hf⟩ := forgets_apply hs (by simpa using he)
    exact hf.sound hs

/-- The bindings of reached pages are sound. -/
theorem Reached.sound {page : Page} (hr : page.Reached) : page.bindings.Sound :=
  hr.invariant (P := fun page => page.bindings.Sound) (fun _ _ _ => Bindings.sound_empty)
    (fun _ edit hs => sound_apply hs edit) fun _ hs => hs

/-- A batch on a strict page leaves nothing on the stack. -/
theorem slots_applyFrom (edits : List Edit) (index : Nat) (tally : Tally) (page : Page)
    (h : (left (applyFrom index tally edits page)).strict = true) :
    (left (applyFrom index tally edits page)).operands.slots = [] := by
  induction edits generalizing index tally page with
  | nil =>
    unfold applyFrom finish at h ⊢
    by_cases hs : page.strict = true
    · rw [if_pos hs]
      dsimp only
      split <;> rfl
    · rw [if_neg hs] at h
      exact absurd h hs
  | cons edit rest ih =>
    unfold applyFrom at h ⊢
    cases hr : apply edit page with
    | ok done reached =>
      rw [hr] at h
      exact ih _ _ _ h
    | error e reached => rfl

/-- Nothing is on the stack of a strict page between batches. -/
theorem Reached.slots_of_strict {page : Page} (hr : page.Reached) (hs : page.strict = true) :
    page.operands.slots = [] := by
  cases hr with
  | start operations names strict => rfl
  | batch edits _ => exact slots_applyFrom edits 0 .zero _ hs

end Page

/-! ## Edits one after the other -/

namespace Tally

theorem zero_add (a : Tally) : zero.add a = a := by simp [add, zero]

theorem add_zero (a : Tally) : a.add zero = a := by simp [add, zero]

theorem add_assoc (a b c : Tally) : (a.add b).add c = a.add (b.add c) := by
  simp [add, Nat.add_assoc]

end Tally

namespace Page

/-- Carries out edits one after the other, without the end of a batch. -/
def applyEach : List Edit → Step Tally
  | [] => pure .zero
  | edit :: rest => do
    let done ← apply edit
    let later ← applyEach rest
    return done.add later

/-- An edit and the rest of a batch that both succeed succeed together. -/
theorem applyEach_cons {edit : Edit} {rest : List Edit} {page middle reached : Page}
    {done later : Tally} (h : apply edit page = .ok done middle)
    (h' : applyEach rest middle = .ok later reached) :
    applyEach (edit :: rest) page = .ok (done.add later) reached := by
  have hrest : (applyEach rest >>= fun later => pure (done.add later) : Step Tally) middle =
      .ok (done.add later) reached := run_bind_of_ok h' _
  exact (run_bind_of_ok h _).trans hrest

/-- A batch that succeeds does so edit by edit. -/
theorem applyEach_cons_ok {edit : Edit} {rest : List Edit} {page reached : Page} {tally : Tally}
    (h : applyEach (edit :: rest) page = .ok tally reached) :
    ∃ done middle later, apply edit page = .ok done middle ∧
      applyEach rest middle = .ok later reached ∧ tally = done.add later := by
  cases hr : apply edit page with
  | error e failed =>
    have hrun : applyEach (edit :: rest) page = .error e failed := run_bind_of_error hr _
    rw [hrun] at h
    cases h
  | ok done middle =>
    cases hr' : applyEach rest middle with
    | error e failed =>
      have hrest : (applyEach rest >>= fun later => pure (done.add later) : Step Tally) middle =
          .error e failed := run_bind_of_error hr' _
      have hrun : applyEach (edit :: rest) page = .error e failed :=
        (run_bind_of_ok hr _).trans hrest
      rw [hrun] at h
      cases h
    | ok later after =>
      rw [applyEach_cons hr hr'] at h
      cases h
      exact ⟨done, middle, later, rfl, hr', rfl⟩

theorem applyEach_singleton {edit : Edit} {page reached : Page} {tally : Tally}
    (h : apply edit page = .ok tally reached) : applyEach [edit] page = .ok tally reached := by
  have hrun := applyEach_cons h (rfl : applyEach [] reached = .ok .zero reached)
  rwa [Tally.add_zero] at hrun

/-- Two runs of edits that succeed succeed together. -/
theorem applyEach_append {first rest : List Edit} {page middle reached : Page}
    {done later : Tally} (h : applyEach first page = .ok done middle)
    (h' : applyEach rest middle = .ok later reached) :
    applyEach (first ++ rest) page = .ok (done.add later) reached := by
  induction first generalizing page done with
  | nil =>
    cases h
    rw [Tally.zero_add]
    exact h'
  | cons edit more ih =>
    obtain ⟨one, next, others, hone, hmore, rfl⟩ := applyEach_cons_ok h
    rw [Tally.add_assoc]
    exact applyEach_cons hone (ih hmore)

/-- What every edit keeps is kept by edits one after the other. -/
theorem applyEach_invariant {P : Page → Prop}
    (hstep : ∀ page edit, P page → P (left (apply edit page))) {edits : List Edit}
    {page reached : Page} {tally : Tally} (h : applyEach edits page = .ok tally reached)
    (hp : P page) : P reached := by
  induction edits generalizing page tally with
  | nil =>
    cases h
    exact hp
  | cons edit rest ih =>
    obtain ⟨done, middle, later, hone, hmore, -⟩ := applyEach_cons_ok h
    have hnext := hstep page edit hp
    rw [hone] at hnext
    exact ih hmore hnext

/-- A page stays well formed over edits. -/
theorem WellFormed.applyEach {page reached : Page} (hw : page.WellFormed) {edits : List Edit}
    {tally : Tally} (h : Page.applyEach edits page = .ok tally reached) : reached.WellFormed :=
  applyEach_invariant (P := WellFormed) (fun _ edit hw => (settles_apply hw edit).wellFormed) h hw

/-! ## Batches -/

/-- The edits of a batch are applied until one fails. -/
theorem applyFrom_cons (index : Nat) (tally : Tally) (edit : Edit) (rest : List Edit)
    (page : Page) : applyFrom index tally (edit :: rest) page =
      match apply edit page with
      | .error e failed => .error ⟨index, edit.opcode, e⟩ failed.clearOperands
      | .ok done reached => applyFrom (index + 1) (tally.add done) rest reached := rfl

/-- The end of a batch does nothing to a page with an empty stack or a lenient one. -/
theorem finish_of_clear {page : Page} (h : page.strict = true → page.operands.slots = [])
    (length : Nat) (tally : Tally) : finish length tally page = .ok tally page := by
  unfold finish
  by_cases hs : page.strict = true
  · have hslots := h hs
    have hclear : page.clearOperands = page := by
      unfold clearOperands Operands.clear
      rw [← hslots]
    have hnone : page.operands.unconsumed = 0 := by
      unfold Operands.unconsumed
      rw [hslots]
      rfl
    rw [if_pos hs]
    dsimp only
    rw [hnone, hclear]
    rfl
  · rw [if_neg hs]

/-- A batch whose edits are all carried out comes to its end. -/
theorem applyFrom_of_applyEach {edits : List Edit} {page reached : Page} {done : Tally}
    (h : applyEach edits page = .ok done reached) (index : Nat) (tally : Tally) :
    applyFrom index tally edits page = finish (index + edits.length) (tally.add done) reached := by
  induction edits generalizing page index tally done with
  | nil =>
    cases h
    rw [Tally.add_zero]
    rfl
  | cons edit rest ih =>
    obtain ⟨one, middle, later, hone, hmore, rfl⟩ := applyEach_cons_ok h
    have hrest := ih hmore (index + 1) (tally.add one)
    rw [Tally.add_assoc, Nat.add_assoc, Nat.add_comm 1] at hrest
    rw [applyFrom_cons, hone]
    exact hrest

/-- A batch fails at its first edit that fails, after those before it have been carried out, or
at its end. -/
theorem applyFrom_error {edits : List Edit} {index : Nat} {tally : Tally} {page after : Page}
    {e : BatchError} (h : applyFrom index tally edits page = .error e after) :
    (∃ k edit done reached cause failed, edits[k]? = some edit ∧
      applyEach (edits.take k) page = .ok done reached ∧
      apply edit reached = .error cause failed ∧ e = ⟨index + k, edit.opcode, cause⟩ ∧
      after = failed.clearOperands) ∨
    ∃ depth, e.cause = .residualStack depth := by
  induction edits generalizing index tally page with
  | nil =>
    unfold applyFrom finish at h
    dsimp only at h
    split at h
    · split at h
      · cases h
        exact Or.inr ⟨_, rfl⟩
      · cases h
    · cases h
  | cons edit rest ih =>
    rw [applyFrom_cons] at h
    cases hr : apply edit page with
    | error cause failed =>
      rw [hr] at h
      cases h
      exact Or.inl ⟨0, edit, .zero, page, cause, failed, rfl, rfl, hr, rfl, rfl⟩
    | ok one middle =>
      rw [hr] at h
      rcases ih h with ⟨k, bad, done, reached, cause, failed, hk, hdone, hbad, he, hafter⟩ | hend
      · refine Or.inl ⟨k + 1, bad, one.add done, reached, cause, failed, hk, ?_, hbad, ?_, hafter⟩
        · exact applyEach_cons hr hdone
        · rw [he, Nat.add_assoc, Nat.add_comm 1]
      · exact Or.inr hend

/-- What every edit keeps holds of every page that an edit of a batch finds. -/
theorem attempts_invariant {P : Page → Prop}
    (hstep : ∀ page edit, P page → P (left (apply edit page))) {page : Page} (h : P page)
    (edits : List Edit) : ∀ attempt ∈ attempts page edits, P attempt.page := by
  induction edits generalizing page with
  | nil => exact nofun
  | cons edit rest ih =>
    intro attempt hm
    have hafter := hstep page edit h
    rw [attempts, List.mem_cons] at hm
    rcases hm with rfl | hm
    · exact h
    · cases hr : apply edit page with
      | ok done reached =>
        rw [hr] at hm hafter
        exact ih hafter attempt hm
      | error e reached =>
        rw [hr] at hm
        cases hm

/-- What every edit and the emptying of the stack keep holds of every page that an edit of a run
finds. -/
theorem allAttempts_invariant {P : Page → Prop}
    (hstep : ∀ page edit, P page → P (left (apply edit page)))
    (hclear : ∀ page : Page, P page → P page.clearOperands) {page : Page} (h : P page)
    (batches : List (List Edit)) : ∀ attempt ∈ allAttempts page batches, P attempt.page := by
  induction batches generalizing page with
  | nil => exact nofun
  | cons batch rest ih =>
    intro attempt hm
    rcases List.mem_append.mp hm with hm | hm
    · exact attempts_invariant hstep h batch attempt hm
    · exact ih (afterBatch_invariant hstep hclear h batch) attempt hm

/-- What every edit and the emptying of the stack keep holds of every page that a run passes. -/
theorem passes_invariant {P : Page → Prop}
    (hstep : ∀ page edit, P page → P (left (apply edit page)))
    (hclear : ∀ page : Page, P page → P page.clearOperands) {page : Page} (h : P page)
    (batches : List (List Edit)) : ∀ reached ∈ passes page batches, P reached := by
  induction batches generalizing page with
  | nil =>
    intro reached hm
    rw [List.mem_singleton.mp hm]
    exact h
  | cons batch rest ih =>
    intro reached hm
    rw [passes, List.cons_append, List.mem_cons, List.mem_append] at hm
    rcases hm with rfl | hm | hm
    · exact h
    · obtain ⟨attempt, ha, rfl⟩ := List.mem_map.mp hm
      exact hstep attempt.page attempt.edit (attempts_invariant hstep h batch attempt ha)
    · exact ih (afterBatch_invariant hstep hclear h batch) reached hm

/-- A run passes the page that edits of its first batch come to. -/
theorem mem_passes_of_applyEach {edits : List Edit} {page reached : Page} {tally : Tally}
    (h : applyEach edits page = .ok tally reached) : reached ∈ passes page [edits] := by
  have hmem : reached = page ∨ reached ∈ (attempts page edits).map Attempt.after := by
    induction edits generalizing page tally with
    | nil =>
      cases h
      exact Or.inl rfl
    | cons edit rest ih =>
      obtain ⟨done, middle, later, hone, hmore, -⟩ := applyEach_cons_ok h
      have hafter : Attempt.after ⟨page, edit⟩ = middle := by rw [Attempt.after, hone]; rfl
      rw [attempts, List.map_cons, hone, hafter]
      rcases ih hmore with rfl | hm
      · exact Or.inr List.mem_cons_self
      · exact Or.inr (List.mem_cons_of_mem _ hm)
  rw [passes]
  rcases hmem with rfl | hm
  · exact List.mem_append_left _ List.mem_cons_self
  · exact List.mem_append_left _ (List.mem_cons_of_mem _ hm)

end Page

end PageHost
