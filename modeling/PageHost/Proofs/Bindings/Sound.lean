import PageHost.Bindings
/-!
# The two directions of the table of bindings

Every change writes the node of an id and the ids of a node separately. `Sound`
says that the two directions are inverse to each other, that no id is listed
twice and that the reserved id is unbound. Each change is described by what both
directions answer afterwards, and each keeps a sound table sound.
-/

namespace PageHost.Bindings

/-- The two directions of the table agree. -/
structure Sound (table : Bindings) : Prop where
  /-- Each id has one entry. -/
  distinct : Keyed.Distinct table.nodes
  /-- A node lists the ids that name it and no others. -/
  mem_idsOf_iff : ∀ id node, id ∈ table.idsOf node ↔ table.lookup? id = some node
  /-- No id is listed twice by a node. -/
  nodup : ∀ node, (table.idsOf node).Nodup
  /-- The reserved id is unbound. -/
  reserved : table.lookup? reservedId = none

/-! ## What both directions answer after a change -/

@[simp] theorem lookup?_empty (id : NodeId) : empty.lookup? id = none := rfl

@[simp] theorem idsOf_empty (node : Handle) : empty.idsOf node = [] := rfl

/-- After an assignment the id names the node, and all others name what they named. -/
@[simp] theorem lookup?_assign (table : Bindings) (id other : NodeId) (node : Handle) :
    (table.assign id node).lookup? other = if id = other then some node else table.lookup? other :=
  Keyed.get?_set _ _ _ _

/-- The node gets the id as its last one, and all others keep their lists. -/
theorem idsOf_assign (table : Bindings) (id : NodeId) (node other : Handle) :
    (table.assign id node).idsOf other =
      if node = other then table.idsOf node ++ [id] else table.idsOf other := by
  unfold assign idsOf
  rw [Keyed.get?_set]
  split <;> rfl

@[simp] theorem nodes_forgetAlias (table : Bindings) (node : Handle) (id : NodeId) :
    (table.forgetAlias node id).nodes = table.nodes := by
  unfold forgetAlias
  split <;> rfl

@[simp] theorem lookup?_forgetAlias (table : Bindings) (node : Handle) (id other : NodeId) :
    (table.forgetAlias node id).lookup? other = table.lookup? other := by
  rw [lookup?, nodes_forgetAlias, lookup?]

/-- Only the list of that node loses the id. -/
theorem idsOf_forgetAlias (table : Bindings) (node other : Handle) (id : NodeId) :
    (table.forgetAlias node id).idsOf other =
      if node = other then (table.idsOf node).filter (fun a => !decide (a = id))
      else table.idsOf other := by
  unfold forgetAlias idsOf
  cases hg : Keyed.get? table.aliases node with
  | none =>
    by_cases hn : node = other
    · subst hn
      simp [hg]
    · simp [hn]
  | some ids =>
    dsimp only
    split
    · rename_i he
      rw [Keyed.get?_erase]
      split
      · rw [List.isEmpty_iff] at he
        exact he.symm
      · rfl
    · rw [Keyed.get?_set]
      split <;> rfl

/-- A released id names nothing; every other id names what it named. -/
theorem lookup?_unbind (table : Bindings) (id other : NodeId) :
    (table.unbind id).2.lookup? other = if id = other then none else table.lookup? other := by
  unfold unbind
  cases hl : table.lookup? id with
  | none =>
    by_cases ho : id = other
    · subst ho
      simpa using hl
    · simp [ho]
  | some node =>
    dsimp only
    rw [lookup?_forgetAlias]
    exact Keyed.get?_erase _ _ _

/-- A released id leaves the list of its node, and no other id moves. -/
theorem idsOf_unbind {table : Bindings} (hs : table.Sound) (id : NodeId) (node : Handle) :
    (table.unbind id).2.idsOf node = (table.idsOf node).filter (fun a => !decide (a = id)) := by
  have hkeep : table.lookup? id ≠ some node →
      (table.idsOf node).filter (fun a => !decide (a = id)) = table.idsOf node := by
    intro hl
    rw [List.filter_eq_self]
    intro a ha
    have hne : a ≠ id := by
      rintro rfl
      exact hl ((hs.mem_idsOf_iff a node).mp ha)
    simp [hne]
  unfold unbind
  cases hl : table.lookup? id with
  | none => exact (hkeep (by simp [hl])).symm
  | some old =>
    dsimp only
    rw [idsOf_forgetAlias]
    split
    · rename_i ho
      subst ho
      rfl
    · rename_i ho
      exact (hkeep (by simpa [hl] using ho)).symm

/-! ## Changes keep the table sound -/

/-- The empty table is sound. -/
theorem sound_empty : empty.Sound where
  distinct := Keyed.distinct_nil
  mem_idsOf_iff := by simp
  nodup := by simp
  reserved := rfl

/-- Naming a node by an id that is in no list keeps the two directions inverse. -/
theorem sound_assign {table : Bindings} {id : NodeId} (node : Handle)
    (hd : Keyed.Distinct table.nodes) (hid : id ≠ reservedId)
    (hr : table.lookup? reservedId = none) (hn : ∀ n, (table.idsOf n).Nodup)
    (hm : ∀ a n, a ∈ table.idsOf n ↔ a ≠ id ∧ table.lookup? a = some n) :
    (table.assign id node).Sound where
  distinct := Keyed.distinct_set hd _ _
  reserved := by rw [lookup?_assign, if_neg hid, hr]
  nodup n := by
    rw [idsOf_assign]
    split
    · rw [List.nodup_append]
      refine ⟨hn node, by simp, ?_⟩
      intro a ha b hb
      rw [List.mem_singleton.mp hb]
      exact ((hm a node).mp ha).1
    · exact hn n
  mem_idsOf_iff a n := by
    rw [lookup?_assign, idsOf_assign]
    by_cases hn : node = n
    · subst hn
      by_cases ha : id = a <;> simp [ha, hm, eq_comm]
    · by_cases ha : id = a
      · subst ha
        simp [hn, hm]
      · simp [hn, ha, hm, Ne.symm ha]

/-- A released id leaves a sound table. -/
theorem sound_unbind {table : Bindings} (hs : table.Sound) (id : NodeId) :
    (table.unbind id).2.Sound where
  distinct := by
    unfold unbind
    split
    · exact hs.distinct
    · rw [nodes_forgetAlias]
      exact Keyed.distinct_erase hs.distinct _
  reserved := by
    rw [lookup?_unbind, hs.reserved]
    split <;> rfl
  nodup node := by
    rw [idsOf_unbind hs]
    exact (hs.nodup node).filter _
  mem_idsOf_iff a node := by
    rw [idsOf_unbind hs, lookup?_unbind, List.mem_filter, hs.mem_idsOf_iff]
    by_cases ha : id = a
    · simp [ha]
    · simp [ha, Ne.symm ha]

/-! ## Binding and rebinding -/

/-- An id that cannot be bound changes nothing. -/
theorem atomic_bindInPlace (id : NodeId) (node : Handle) : Atomic (bindInPlace id node) := by
  intro table e after h
  unfold bindInPlace at h
  split at h
  · cases h
    rfl
  · split at h
    · cases h
      rfl
    · cases h

/-- Nor does one that cannot be moved. -/
theorem atomic_rebindInPlace (id : NodeId) (node : Handle) : Atomic (rebindInPlace id node) := by
  intro table e after h
  unfold rebindInPlace at h
  split at h
  · cases h
    rfl
  · cases h

/-- An id is bound exactly when it is neither reserved nor bound already. -/
theorem bind_eq (table : Bindings) (id : NodeId) (node : Handle) :
    table.bind id node =
      if id = reservedId then .error .reservedNodeId
      else if (table.lookup? id).isSome then .error (.duplicateBinding id)
      else .ok (table.assign id node) := by
  unfold bind outcome bindInPlace contains
  by_cases hid : id = reservedId
  · rw [if_pos hid, if_pos hid]
    rfl
  · rw [if_neg hid, if_neg hid]
    cases (table.lookup? id).isSome <;> rfl

/-- Binding in place, by its outcome. -/
theorem bindInPlace_eq (table : Bindings) (id : NodeId) (node : Handle) :
    bindInPlace id node table = match table.bind id node with
      | .error e => .error e table
      | .ok after => .ok () after := by
  rw [(atomic_bindInPlace id node).run_eq, bind]
  cases outcome (bindInPlace id node) table <;> rfl

theorem rebindInPlace_eq (table : Bindings) (id : NodeId) (node : Handle) :
    rebindInPlace id node table = match table.rebind id node with
      | .error e => .error e table
      | .ok (previous, after) => .ok previous after := by
  rw [(atomic_rebindInPlace id node).run_eq, rebind]
  cases outcome (rebindInPlace id node) table <;> rfl

/-- An id that is bound was free, and the table is the one with the assignment. -/
theorem bind_ok {table table' : Bindings} {id : NodeId} {node : Handle}
    (h : table.bind id node = .ok table') :
    id ≠ reservedId ∧ table.lookup? id = none ∧ table' = table.assign id node := by
  rw [bind_eq] at h
  split at h
  · cases h
  · rename_i hid
    split at h
    · cases h
    · rename_i hl
      cases h
      exact ⟨hid, by simpa using hl, rfl⟩

/-- A binding leaves a sound table. -/
theorem sound_bind {table table' : Bindings} {id : NodeId} {node : Handle} (hs : table.Sound)
    (h : table.bind id node = .ok table') : table'.Sound := by
  obtain ⟨hid, hno, rfl⟩ := bind_ok h
  refine sound_assign node hs.distinct hid hs.reserved hs.nodup ?_
  intro a n
  rw [hs.mem_idsOf_iff]
  constructor
  · intro ha
    refine ⟨?_, ha⟩
    rintro rfl
    rw [hno] at ha
    cases ha
  · exact fun ha => ha.2

/-- Taking an id off the list of the node that it names empties it of all lists. -/
theorem mem_idsOf_forgetAlias {table : Bindings} {id : NodeId} {previous : Handle}
    (hs : table.Sound) (hl : table.lookup? id = some previous) (a : NodeId) (n : Handle) :
    a ∈ (table.forgetAlias previous id).idsOf n ↔ a ≠ id ∧ table.lookup? a = some n := by
  rw [idsOf_forgetAlias]
  split
  · rename_i hn
    subst hn
    rw [List.mem_filter, hs.mem_idsOf_iff]
    simp [and_comm]
  · rename_i hn
    rw [hs.mem_idsOf_iff]
    constructor
    · intro ha
      refine ⟨?_, ha⟩
      rintro rfl
      rw [hl] at ha
      exact hn (Option.some.inj ha)
    · exact fun ha => ha.2

/-- An id can be moved exactly when it is bound. -/
theorem rebind_eq (table : Bindings) (id : NodeId) (node : Handle) :
    table.rebind id node =
      match table.lookup? id with
      | none => .error (.unknownNode id)
      | some previous => .ok (previous, (table.forgetAlias previous id).assign id node) := by
  unfold rebind outcome rebindInPlace lookup
  cases table.lookup? id <;> rfl

/-- An id that is bound again was bound, and is taken off the list of its old node. -/
theorem rebind_ok {table table' : Bindings} {id : NodeId} {node previous : Handle}
    (h : table.rebind id node = .ok (previous, table')) :
    table.lookup? id = some previous ∧
      table' = (table.forgetAlias previous id).assign id node := by
  rw [rebind_eq] at h
  cases hl : table.lookup? id with
  | none =>
    rw [hl] at h
    cases h
  | some old =>
    rw [hl] at h
    cases h
    exact ⟨rfl, rfl⟩

/-- After an id is moved it names the new node, and all others name what they named. -/
theorem lookup?_rebind {table table' : Bindings} {id : NodeId} {node previous : Handle}
    (h : table.rebind id node = .ok (previous, table')) (other : NodeId) :
    table'.lookup? other = if id = other then some node else table.lookup? other := by
  obtain ⟨-, rfl⟩ := rebind_ok h
  rw [lookup?_assign, lookup?_forgetAlias]

theorem sound_rebind {table table' : Bindings} {id : NodeId} {node previous : Handle}
    (hs : table.Sound) (h : table.rebind id node = .ok (previous, table')) : table'.Sound := by
  obtain ⟨hl, rfl⟩ := rebind_ok h
  have hid : id ≠ reservedId := by
    rintro rfl
    rw [hs.reserved] at hl
    cases hl
  refine sound_assign node ?_ hid ?_ ?_ ?_
  · rw [nodes_forgetAlias]
    exact hs.distinct
  · rw [lookup?_forgetAlias]
    exact hs.reserved
  · intro n
    rw [idsOf_forgetAlias]
    split
    · exact (hs.nodup _).filter _
    · exact hs.nodup n
  · intro a n
    rw [lookup?_forgetAlias]
    exact mem_idsOf_forgetAlias hs hl a n

/-! ## Releasing by a test -/

/-- Releases ids one after the other. -/
def unbindAll (table : Bindings) (ids : List NodeId) : Bindings :=
  ids.foldl (fun table id => (table.unbind id).2) table

theorem sound_unbindAll {table : Bindings} (hs : table.Sound) (ids : List NodeId) :
    (table.unbindAll ids).Sound := by
  induction ids generalizing table with
  | nil => exact hs
  | cons id rest ih => exact ih (sound_unbind hs id)

/-- The released ids name nothing, and all others name what they named. -/
theorem lookup?_unbindAll (table : Bindings) (ids : List NodeId) (a : NodeId) :
    (table.unbindAll ids).lookup? a = if a ∈ ids then none else table.lookup? a := by
  induction ids generalizing table with
  | nil => simp [unbindAll]
  | cons id rest ih =>
    have hstep := ih (table.unbind id).2
    rw [lookup?_unbind] at hstep
    rw [show table.unbindAll (id :: rest) = (table.unbind id).2.unbindAll rest from rfl, hstep]
    by_cases ha : id = a
    · simp [ha]
    · simp [ha, Ne.symm ha]

/-- Every node loses the released ids from its list. -/
theorem idsOf_unbindAll {table : Bindings} (hs : table.Sound) (ids : List NodeId) (node : Handle) :
    (table.unbindAll ids).idsOf node = (table.idsOf node).filter (fun a => !decide (a ∈ ids)) := by
  induction ids generalizing table with
  | nil =>
    have hall : ∀ a ∈ table.idsOf node, (!decide (a ∈ ([] : List NodeId))) = true := by simp
    exact (List.filter_eq_self.mpr hall).symm
  | cons id rest ih =>
    have hstep := ih (sound_unbind hs id)
    rw [idsOf_unbind hs, List.filter_filter] at hstep
    rw [show table.unbindAll (id :: rest) = (table.unbind id).2.unbindAll rest from rfl, hstep]
    apply List.filter_congr
    intro a _
    by_cases ha : a = id <;> simp [ha]

/-- The released ids are those whose node passes the test. -/
theorem mem_unbindWhere_iff {table : Bindings} (hs : table.Sound) (test : Handle → Bool)
    (id : NodeId) :
    id ∈ (table.unbindWhere test).1 ↔ ∃ node, table.lookup? id = some node ∧ test node := by
  unfold unbindWhere
  simp only [List.mem_map, List.mem_filter]
  constructor
  · rintro ⟨⟨a, node⟩, ⟨hm, ht⟩, rfl⟩
    exact ⟨node, (Keyed.get?_eq_some_iff hs.distinct a node).mpr hm, ht⟩
  · rintro ⟨node, hl, ht⟩
    exact ⟨(id, node), ⟨Keyed.mem_of_get? hl, ht⟩, rfl⟩

/-- Each released id is returned once. -/
theorem nodup_unbindWhere {table : Bindings} (hs : table.Sound) (test : Handle → Bool) :
    (table.unbindWhere test).1.Nodup :=
  Keyed.distinct_filter hs.distinct fun entry => test entry.2

/-- To release ids because of their nodes is to release them one after the other. -/
theorem unbindWhere_snd (table : Bindings) (test : Handle → Bool) :
    (table.unbindWhere test).2 = table.unbindAll (table.unbindWhere test).1 := rfl

/-- Ids that are released because of their nodes leave a sound table. -/
theorem sound_unbindWhere {table : Bindings} (hs : table.Sound) (test : Handle → Bool) :
    (table.unbindWhere test).2.Sound := by
  rw [unbindWhere_snd]
  exact sound_unbindAll hs _

/-- An id keeps its node exactly when the node fails the test. -/
theorem lookup?_unbindWhere {table : Bindings} (hs : table.Sound) (test : Handle → Bool)
    (id : NodeId) :
    (table.unbindWhere test).2.lookup? id = (table.lookup? id).filter fun node => !test node := by
  rw [unbindWhere_snd, lookup?_unbindAll]
  cases hl : table.lookup? id with
  | none => simp
  | some node =>
    by_cases ht : test node
    · have hm := (mem_unbindWhere_iff hs test id).mpr ⟨node, hl, ht⟩
      simp [hm, ht, Option.filter]
    · have hm : id ∉ (table.unbindWhere test).1 := by
        rw [mem_unbindWhere_iff hs]
        rintro ⟨other, ho, hto⟩
        rw [hl] at ho
        cases ho
        exact ht hto
      simp [hm, ht, Option.filter]

/-- A node keeps all its ids in order or loses them all. -/
theorem idsOf_unbindWhere {table : Bindings} (hs : table.Sound) (test : Handle → Bool)
    (node : Handle) :
    (table.unbindWhere test).2.idsOf node = if test node then [] else table.idsOf node := by
  have hm : ∀ a ∈ table.idsOf node, (a ∈ (table.unbindWhere test).1 ↔ test node) := by
    intro a ha
    have hl := (hs.mem_idsOf_iff a node).mp ha
    rw [mem_unbindWhere_iff hs, hl]
    simp
  rw [unbindWhere_snd, idsOf_unbindAll hs]
  by_cases ht : test node
  · rw [if_pos ht, List.filter_eq_nil_iff]
    intro a ha
    simp [(hm a ha).mpr ht]
  · rw [if_neg ht, List.filter_eq_self]
    intro a ha
    have hn := (not_congr (hm a ha)).mpr ht
    simpa using hn

end PageHost.Bindings
