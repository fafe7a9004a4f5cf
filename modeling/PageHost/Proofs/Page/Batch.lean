import PageHost.Page
import PageHost.Proofs.Run
/-!
# Runs of batches

A run carries out batches one after the other, whether they succeed or not. It
consists of attempts: an edit and the page that finds it. What every edit and
the emptying of the stack keep holds of every page of a run.
-/

namespace PageHost.Page

/-- An edit and the page that finds it. -/
structure Attempt where
  page : Page
  edit : Edit

/-- The page that the edit leaves, carried out or not. -/
def Attempt.after (attempt : Attempt) : Page := left (apply attempt.edit attempt.page)

/-- The attempts of one batch, of which at most the last one fails. -/
def attempts (page : Page) : List Edit → List Attempt
  | [] => []
  | edit :: rest =>
    ⟨page, edit⟩ ::
      match apply edit page with
      | .ok _ page => attempts page rest
      | .error _ _ => []

/-- The page that a batch leaves, successful or not. -/
def afterBatch (page : Page) (batch : List Edit) : Page := left (applyBatch batch page)

/-- The page that batches leave. -/
def afterBatches (page : Page) (batches : List (List Edit)) : Page := batches.foldl afterBatch page

/-- The attempts of all batches. -/
def allAttempts (page : Page) : List (List Edit) → List Attempt
  | [] => []
  | batch :: rest => attempts page batch ++ allAttempts (page.afterBatch batch) rest

/-- The pages that a run passes: before and after each batch and after each edit. -/
def passes (page : Page) : List (List Edit) → List Page
  | [] => [page]
  | batch :: rest =>
    page :: (attempts page batch).map Attempt.after ++ passes (page.afterBatch batch) rest

/-- A run passes the page that it comes to. -/
theorem afterBatches_mem_passes (page : Page) (batches : List (List Edit)) :
    page.afterBatches batches ∈ page.passes batches := by
  induction batches generalizing page with
  | nil => exact List.mem_singleton_self _
  | cons batch rest ih => exact List.mem_append_right _ (ih (page.afterBatch batch))

section Induction

variable {γ : Type} {P : Page → γ → Prop} {f : γ → Attempt → γ}

/-- What a step of a record follows and the emptying of the stack keeps is followed by
the record of a batch. -/
theorem applyFrom_induction
    (hstep : ∀ page record edit, P page record →
      P (left (apply edit page)) (f record ⟨page, edit⟩))
    (hclear : ∀ page record, P page record → P page.clearOperands record) (edits : List Edit)
    (index : Nat) (tally : Tally) (page : Page) (record : γ) (h : P page record) :
    P (left (applyFrom index tally edits page)) ((attempts page edits).foldl f record) := by
  induction edits generalizing index tally page record with
  | nil =>
    unfold applyFrom finish
    split
    · dsimp only
      split
      · exact hclear page record h
      · exact hclear page record h
    · exact h
  | cons edit rest ih =>
    have hafter := hstep page record edit h
    unfold applyFrom attempts
    cases hr : apply edit page with
    | ok done reached =>
      rw [hr] at hafter
      exact ih (index + 1) (tally.add done) reached (f record ⟨page, edit⟩) hafter
    | error e reached =>
      rw [hr] at hafter
      exact hclear reached _ hafter

/-- The same for a run. -/
theorem afterBatches_induction
    (hstep : ∀ page record edit, P page record →
      P (left (apply edit page)) (f record ⟨page, edit⟩))
    (hclear : ∀ page record, P page record → P page.clearOperands record)
    (batches : List (List Edit)) (page : Page) (record : γ) (h : P page record) :
    P (page.afterBatches batches) ((page.allAttempts batches).foldl f record) := by
  induction batches generalizing page record with
  | nil => exact h
  | cons batch rest ih =>
    rw [allAttempts, List.foldl_append]
    exact ih _ _ (applyFrom_induction hstep hclear batch 0 .zero page record h)

end Induction

end PageHost.Page
