import PageHost.Proofs.Page.Batch
import PageHost.Proofs.Page.Release
/-!
# The ledger of registrations

A ledger holds for each id and event how many registrations there are and the
handler of the last one. It knows no root counts and no root listeners, and it
learns of lost bindings by comparing what ids named before and after an edit.
After every run, failing batches included, the delegation has exactly the entries
of the ledger.
-/

namespace PageHost

/-- The registrations of each id for each event. -/
abbrev Ledger := NodeId → String → Option Interest

namespace Ledger

/-- Nobody is registered. -/
def empty : Ledger := fun _ _ => none

/-- The number of registrations of an id for an event. -/
def count (ledger : Ledger) (id : NodeId) (name : String) : Nat :=
  match ledger id name with
  | none => 0
  | some interest => interest.count

/-- One registration more, which brings the handler. -/
def add (ledger : Ledger) (id : NodeId) (name : String) (handler : Payload) : Ledger := fun i n =>
  if i = id ∧ n = name then some ⟨handler, ledger.count id name + 1⟩ else ledger i n

/-- One registration less, if there is one; an entry that comes to zero is deleted. -/
def subtract (ledger : Ledger) (id : NodeId) (name : String) : Ledger := fun i n =>
  if i = id ∧ n = name then
    match ledger i n with
    | none => none
    | some interest =>
      if interest.count - 1 = 0 then none else some { interest with count := interest.count - 1 }
  else ledger i n

/-- Deletes all entries of the ids that were bound and no longer name their node. -/
def drop (ledger : Ledger) (before after : Bindings) : Ledger := fun i n =>
  match before.lookup? i with
  | none => ledger i n
  | some node => if after.lookup? i = some node then ledger i n else none

/-- What an edit asks of the ledger: a new registration counts if the edit succeeds. -/
def register (ledger : Ledger) (attempt : Page.Attempt) : Ledger :=
  match attempt.edit with
  | .newEventListener name id handler =>
    match Page.apply attempt.edit attempt.page with
    | .ok _ _ => ledger.add id name handler
    | .error _ _ => ledger
  | .removeEventListener id name => ledger.subtract id name
  | _ => ledger

/-- The ledger after one more edit of a run, carried out or not. -/
def record (ledger : Ledger) (attempt : Page.Attempt) : Ledger :=
  (ledger.register attempt).drop attempt.page.bindings attempt.after.bindings

/-- With the same bindings no entry is deleted. -/
theorem drop_self (ledger : Ledger) (table : Bindings) : ledger.drop table table = ledger := by
  funext i n
  unfold drop
  cases table.lookup? i with
  | none => rfl
  | some node => exact if_pos rfl

end Ledger

namespace Page

/-- The delegation has the entries of the ledger, and every entry belongs to a bound id. -/
structure Follows (page : Page) (ledger : Ledger) : Prop where
  sound : page.bindings.Sound
  balanced : page.Balanced
  entries : ∀ id name, page.delegation.interest? id name = ledger id name
  bound : ∀ id name, page.delegation.isListening id name = true → page.bindings.contains id = true

/-- A page over a document without root listeners follows the empty ledger. -/
theorem follows_ofDocument {document : Document} (h : document.rootListeners = [])
    (strict : Bool) : Follows (ofDocument document strict) .empty :=
  ⟨Bindings.sound_empty, Delegation.balanced_empty h, fun _ _ => rfl, nofun⟩

/-- Operands do not matter to the ledger. -/
theorem Follows.clearOperands {page : Page} {ledger : Ledger} (h : Follows page ledger) :
    Follows page.clearOperands ledger := ⟨h.sound, h.balanced, h.entries, h.bound⟩

/-! ## One edit -/

/-- Where bindings and registrations go together, the ledger deletes the same entries. -/
theorem Follows.forgets {start page : Page} {ledger : Ledger} (h : Follows start ledger)
    {ids : List NodeId} (hf : Forgets start ids page) :
    Follows page (ledger.drop start.bindings page.bindings) := by
  refine ⟨hf.sound h.sound, hf.balanced h.balanced, ?_, ?_⟩
  · intro id name
    rw [hf.interest, h.entries]
    unfold Ledger.drop
    by_cases hid : id ∈ ids
    · obtain ⟨node, hn, hgone⟩ := hf.goes id hid
      rw [if_pos hid, hn]
      exact (if_neg hgone).symm
    · rw [if_neg hid]
      cases hn : start.bindings.lookup? id with
      | none => rfl
      | some node => exact (if_pos (hf.stays id hid node hn)).symm
  · intro id name hl
    unfold Delegation.isListening at hl
    rw [hf.interest] at hl
    by_cases hid : id ∈ ids
    · rw [if_pos hid] at hl
      cases hl
    · rw [if_neg hid] at hl
      have hbound := h.bound id name hl
      unfold Bindings.contains at hbound ⊢
      obtain ⟨node, hn⟩ := Option.isSome_iff_exists.mp hbound
      exact Option.isSome_iff_exists.mpr ⟨node, hf.stays id hid node hn⟩

/-- A registration that is added to the delegation is added to the ledger. -/
theorem Follows.listen {page : Page} {ledger : Ledger} (h : Follows page ledger) {id : NodeId}
    (hid : page.bindings.contains id = true) (name : String) (handler : Payload) :
    Follows (page.withListener id name handler) (ledger.add id name handler) := by
  refine ⟨h.sound, Delegation.balanced_listen h.balanced id name handler, ?_, ?_⟩
  · intro i n
    have hcount : page.delegation.interestCount id name = ledger.count id name := by
      have he := h.entries id name
      unfold Delegation.interestCount Ledger.count
      cases hi : page.delegation.interest? id name with
      | none =>
        rw [hi] at he
        simp [← he]
      | some interest =>
        rw [hi] at he
        simp [← he]
    show (page.delegation.listen page.document id name handler).2.1.interest? i n = _
    rw [Delegation.interest?_listen, hcount, h.entries]
    rfl
  · intro i n hl
    replace hl : ((page.delegation.listen page.document id name handler).2.1.interest? i n).isSome =
      true := hl
    rw [Delegation.interest?_listen] at hl
    split at hl
    · rename_i he
      rw [he.1]
      exact hid
    · exact h.bound i n hl

/-- A registration that is taken back is taken off the ledger. -/
theorem Follows.unlisten {page : Page} {ledger : Ledger} (h : Follows page ledger) (id : NodeId)
    (name : String) :
    Follows { page with
      delegation := (page.delegation.unlisten page.document id name).2.1
      document := (page.delegation.unlisten page.document id name).2.2 }
      (ledger.subtract id name) := by
  refine ⟨h.sound, Delegation.balanced_unlisten h.balanced id name, ?_, ?_⟩
  · intro i n
    show (page.delegation.unlisten page.document id name).2.1.interest? i n = _
    rw [Delegation.interest?_unlisten, h.entries]
    unfold Ledger.subtract
    split
    · cases ledger i n with
      | none => rfl
      | some interest =>
        have hzero : interest.count ≤ 1 ↔ interest.count - 1 = 0 := by omega
        rw [Option.bind_some, Delegation.lessOne]
        simp only [hzero]
    · rfl
  · intro i n hl
    replace hl : ((page.delegation.unlisten page.document id name).2.1.interest? i n).isSome =
      true := hl
    rw [Delegation.interest?_unlisten] at hl
    apply h.bound i n
    unfold Delegation.isListening
    split at hl
    · cases hi : page.delegation.interest? i n with
      | none =>
        rw [hi] at hl
        cases hl
      | some interest => rfl
    · exact hl

/-- One edit, carried out or not, changes the delegation as it changes the ledger. -/
theorem Follows.record {page : Page} {ledger : Ledger} (h : Follows page ledger) (edit : Edit) :
    Follows (left (apply edit page)) (ledger.record ⟨page, edit⟩) := by
  by_cases he : edit.isListening = true
  · cases edit with
    | newEventListener name id handler =>
      unfold Ledger.record Ledger.register Attempt.after
      dsimp only
      rcases apply_newEventListener page name id handler with ⟨e, hrun⟩ | ⟨hid, hrun⟩
      · rw [hrun, left, Ledger.drop_self]
        exact h
      · have hadded := h.listen hid name handler
        rw [hrun, left]
        have hsame : (page.withListener id name handler).bindings = page.bindings := rfl
        rw [hsame, Ledger.drop_self]
        exact hadded
    | removeEventListener id name =>
      have hrecord : ledger.record ⟨page, .removeEventListener id name⟩ = ledger.subtract id name :=
        Ledger.drop_self _ page.bindings
      rw [hrecord]
      exact h.unlisten id name
    | _ => cases he
  · have hquiet : edit.isListening = false := by simpa using he
    obtain ⟨ids, hf⟩ := forgets_apply h.sound hquiet
    have hsame : ledger.register ⟨page, edit⟩ = ledger := by
      cases edit with
      | newEventListener _ _ _ | removeEventListener _ _ => cases hquiet
      | _ => rfl
    unfold Ledger.record
    rw [hsame]
    exact h.forgets hf

/-! ## A run -/

/-- The delegation after a run from a page over a document without root listeners has
exactly the entries of the ledger. Every entry stands for a registration and belongs to
a bound id, the root count of an event is the sum of its counts over all ids, and the
document listens for an event exactly if that sum is positive. -/
theorem delegation_follows_ledger (document : Document) (strict : Bool)
    (hl : document.rootListeners = []) (batches : List (List Edit)) :
    let start := ofDocument document strict
    let page := afterBatches start batches
    let ids := page.bindings.nodes.map Prod.fst
    (∀ id name, page.delegation.interest? id name =
      (allAttempts start batches).foldl Ledger.record .empty id name) ∧
    (∀ id name interest, page.delegation.interest? id name = some interest →
      1 ≤ interest.count ∧ page.bindings.contains id = true) ∧
    (∀ name, page.delegation.rootCount name = page.delegation.countOver ids name) ∧
    ∀ name, page.document.hasRootListener name = true ↔ 0 < page.delegation.countOver ids name := by
  intro start page ids
  have h : Follows page ((allAttempts start batches).foldl Ledger.record .empty) :=
    afterBatches_induction (P := Follows) (fun _ _ edit hf => hf.record edit)
      (fun _ _ hf => hf.clearOperands) batches start Ledger.empty (follows_ofDocument hl strict)
  have hsum : ∀ name, page.delegation.rootCount name = page.delegation.countOver ids name := by
    intro name
    apply Delegation.rootCount_eq_countOver h.balanced h.sound.distinct
    intro id other hlisten
    rw [Keyed.mem_keys_iff]
    exact h.bound id other hlisten
  refine ⟨h.entries, ?_, hsum, ?_⟩
  · intro id name interest hi
    refine ⟨h.balanced.positive id name interest hi, h.bound id name ?_⟩
    rw [Delegation.isListening, hi]
    rfl
  · intro name
    rw [← hsum, Delegation.rootCount_eq h.balanced]
    exact h.balanced.tracks.listens name

/-- Two registrations of which one is taken back in a later batch. -/
theorem delegation_follows_ledger_click :
    let start := ofDocument .blank true
    let batches : List (List Edit) :=
      [[.createElement "button" 1, .popRoot, .newEventListener "click" 1 (.text "first"),
        .newEventListener "click" 1 (.text "second")], [.removeEventListener 1 "click"]]
    let page := afterBatches start batches
    let ids := page.bindings.nodes.map Prod.fst
    (Document.blank.rootListeners = [] ∧ page.delegation.rootCount "click" = 1) ∧
    (∀ id name, page.delegation.interest? id name =
      (allAttempts start batches).foldl Ledger.record .empty id name) ∧
    (∀ id name interest, page.delegation.interest? id name = some interest →
      1 ≤ interest.count ∧ page.bindings.contains id = true) ∧
    (∀ name, page.delegation.rootCount name = page.delegation.countOver ids name) ∧
    ∀ name, page.document.hasRootListener name = true ↔ 0 < page.delegation.countOver ids name :=
  ⟨⟨rfl, by decide +kernel⟩, delegation_follows_ledger .blank true rfl
    [[.createElement "button" 1, .popRoot, .newEventListener "click" 1 (.text "first"),
      .newEventListener "click" 1 (.text "second")], [.removeEventListener 1 "click"]]⟩

end Page

end PageHost
