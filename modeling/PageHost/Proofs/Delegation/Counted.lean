import PageHost.Proofs.Delegation.Commute
/-!
# Counts that agree

A page can start on a document that listens for events already, so its root listeners may
tell more than its registrations do. The counts agree all the same: they do not depend on
the document that the calls are made with, and so they are those of a balanced table.
When ids lose their registrations, each root count drops by the sum of their counts.
-/

namespace PageHost.Delegation

/-! ## The document does not matter -/

/-- What a registration does to the registrations does not depend on the document. -/
theorem listen_fst (d : Delegation) (a b : Document) (id : NodeId) (name : String)
    (handler : Payload) :
    (d.listen a id name handler).2.1 = (d.listen b id name handler).2.1 := by
  unfold listen
  dsimp only
  split <;> rfl

theorem sheds_fst (counts : Keyed String Nat) (a b : Document) (units : List (String × Nat)) :
    (sheds (counts, a) units).1 = (sheds (counts, b) units).1 := by
  induction units generalizing counts a b with
  | nil => rfl
  | cons unit rest ih => exact ih _ _ _

theorem Revocation.perform_fst (d : Delegation) (a b : Document) (call : Revocation) :
    (call.perform d a).1 = (call.perform d b).1 := by
  rw [perform_eq, perform_eq]
  dsimp only
  rw [sheds_fst d.rootCounts a b]

/-! ## Counted tables -/

/-- With the root listeners of some document the table is in balance. -/
def Counted (d : Delegation) : Prop := ∃ doc, d.Balanced doc

/-- The empty table is counted right. -/
theorem counted_empty : empty.Counted := ⟨.blank, balanced_empty rfl⟩

/-- A registration keeps a table counted right. -/
theorem Counted.listen {d : Delegation} (h : d.Counted) (doc : Document) (id : NodeId)
    (name : String) (handler : Payload) : (d.listen doc id name handler).2.1.Counted := by
  obtain ⟨balancing, hb⟩ := h
  rw [listen_fst d doc balancing]
  exact ⟨_, balanced_listen hb id name handler⟩

/-- A revocation keeps a table counted right. -/
theorem Counted.perform {d : Delegation} (h : d.Counted) (doc : Document) (call : Revocation) :
    (call.perform d doc).1.Counted := by
  obtain ⟨balancing, hb⟩ := h
  rw [Revocation.perform_fst d doc balancing]
  cases call with
  | all id => exact ⟨_, balanced_forget hb id⟩
  | one id name => exact ⟨_, balanced_unlisten hb id name⟩

/-! ## Ids without registrations -/

/-- The count over two lists of ids is the sum of both counts. -/
theorem countOver_append (d : Delegation) (first rest : List NodeId) (name : String) :
    d.countOver (first ++ rest) name = d.countOver first name + d.countOver rest name := by
  unfold countOver
  rw [List.map_append, List.sum_append]

/-- When some ids lose all their registrations and the others keep theirs, the root count of an
event drops by the sum of the counts of these ids. -/
theorem Counted.rootCount_add_countOver {d after : Delegation} (h : d.Counted)
    (h' : after.Counted) {ids : List NodeId} (hn : ids.Nodup)
    (hi : ∀ id name, after.interest? id name =
      if id ∈ ids then none else d.interest? id name) (name : String) :
    after.rootCount name + d.countOver ids name = d.rootCount name := by
  obtain ⟨doc, hb⟩ := h
  obtain ⟨doc', hb'⟩ := h'
  let others := ((d.interests.map fun entry => entry.1.1).dedup).filter fun id =>
    !decide (id ∈ ids)
  have hall : (ids ++ others).Nodup := by
    rw [List.nodup_append]
    refine ⟨hn, (List.nodup_dedup _).filter _, ?_⟩
    rintro id hid other ho rfl
    simpa [hid] using (List.mem_filter.mp ho).2
  have hcover : ∀ id name, d.isListening id name = true → id ∈ ids ++ others := by
    intro id name hl
    by_cases hid : id ∈ ids
    · exact List.mem_append_left _ hid
    · apply List.mem_append_right
      have hkey : (id, name) ∈ d.interests.map Prod.fst := (Keyed.mem_keys_iff _ _).mpr hl
      obtain ⟨entry, hm, he⟩ := List.mem_map.mp hkey
      have howner : id ∈ d.interests.map fun entry => entry.1.1 :=
        List.mem_map.mpr ⟨entry, hm, congrArg Prod.fst he⟩
      exact List.mem_filter.mpr ⟨List.mem_dedup.mpr howner, by simpa using hid⟩
  have hcover' : ∀ id name, after.isListening id name = true → id ∈ ids ++ others := by
    intro id name hl
    apply hcover id name
    unfold isListening at hl ⊢
    rw [hi] at hl
    split at hl
    · cases hl
    · exact hl
  have hcount : ∀ id name, after.interestCount id name =
      if id ∈ ids then 0 else d.interestCount id name := by
    intro id name
    unfold interestCount
    rw [hi]
    by_cases hid : id ∈ ids
    · rw [if_pos hid, if_pos hid]
    · rw [if_neg hid, if_neg hid]
  have hreleased : after.countOver ids name = 0 := by
    apply List.sum_eq_zero
    intro count hm
    obtain ⟨id, hid, rfl⟩ := List.mem_map.mp hm
    rw [hcount, if_pos hid]
  have hkept : after.countOver others name = d.countOver others name := by
    unfold countOver
    congr 1
    apply List.map_congr_left
    intro id ho
    rw [hcount, if_neg (by simpa using (List.mem_filter.mp ho).2)]
  rw [rootCount_eq_countOver hb' hall hcover', rootCount_eq_countOver hb hall hcover,
    countOver_append, countOver_append, hreleased, hkept, Nat.zero_add, Nat.add_comm]

end PageHost.Delegation
