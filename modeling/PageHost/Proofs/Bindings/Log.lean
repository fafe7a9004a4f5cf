import PageHost.Proofs.Bindings.Sound
/-!
# The log of bindings

A log keeps for each bound id the node that it names and the time of the call
that bound it last; a call takes one unit of time. It has one direction only and
no lists. After every run of calls, refused ones included, the table answers as
the log does: the ids of a node are those that the log gives that node, in the
order of their times, and the most recent one speaks for the node.
-/

namespace PageHost.Bindings

/-! ## Calls -/

/-- A call on the table. -/
inductive Call where
  | bind (id : NodeId) (node : Handle)
  | rebind (id : NodeId) (node : Handle)
  | unbind (id : NodeId)
  | unbindWhere (test : Handle → Bool)

/-- What a call gives back. -/
inductive Answer where
  | bound
  /-- Bound again; the node that the id named before. -/
  | replaced (previous : Handle)
  /-- The node of the released id, if it was bound. -/
  | released (node : Option Handle)
  | releasedAll (ids : List NodeId)
  | refused (cause : EditError)

/-- Carries out a call: the answer and the table that is left. -/
def perform (table : Bindings) : Call → Answer × Bindings
  | .bind id node =>
    match bindInPlace id node table with
    | .error e after => (.refused e, after)
    | .ok _ after => (.bound, after)
  | .rebind id node =>
    match rebindInPlace id node table with
    | .error e after => (.refused e, after)
    | .ok previous after => (.replaced previous, after)
  | .unbind id =>
    let (node, table) := table.unbind id
    (.released node, table)
  | .unbindWhere test =>
    let (ids, table) := table.unbindWhere test
    (.releasedAll ids, table)

/-- A refused call changes nothing. -/
theorem perform_of_refused (table : Bindings) (call : Call) {e : EditError}
    (h : (table.perform call).1 = .refused e) : (table.perform call).2 = table := by
  cases call with
  | bind id node =>
    rw [perform] at h ⊢
    cases hrun : bindInPlace id node table with
    | error e after => exact atomic_bindInPlace id node table e after hrun
    | ok u after =>
      rw [hrun] at h
      cases h
  | rebind id node =>
    rw [perform] at h ⊢
    cases hrun : rebindInPlace id node table with
    | error e after => exact atomic_rebindInPlace id node table e after hrun
    | ok previous after =>
      rw [hrun] at h
      cases h
  | unbind id => cases h
  | unbindWhere test => cases h

/-- The table after calls that start with nothing bound. -/
def afterCalls (calls : List Call) : Bindings :=
  calls.foldl (fun table call => (table.perform call).2) empty

/-! ## The log -/

/-- The latest binding of an id. -/
structure LogEntry where
  node : Handle
  /-- How many calls came before the one that bound the id. -/
  time : Nat

/-- The latest binding of each bound id. -/
abbrev Log := NodeId → Option LogEntry

namespace Log

/-- Nothing is bound. -/
def empty : Log := fun _ => none

/-- The log with one more binding. -/
def put (log : Log) (id : NodeId) (entry : LogEntry) : Log :=
  fun other => if id = other then some entry else log other

/-- The log after a call at a time. Refused calls leave no trace. -/
def record (log : Log) (now : Nat) : Call → Log
  | .bind id node =>
    if id = reservedId ∨ (log id).isSome then log else log.put id ⟨node, now⟩
  | .rebind id node => if (log id).isSome then log.put id ⟨node, now⟩ else log
  | .unbind id => fun other => if id = other then none else log other
  | .unbindWhere test => fun other => (log other).filter fun entry => !test entry.node

/-- The log after calls of which the first is made at a time. -/
def recordAll (log : Log) (now : Nat) : List Call → Log
  | [] => log
  | call :: rest => (log.record now call).recordAll (now + 1) rest

/-- What the log has a call answer. Ids that are released together come in any
order, each once. -/
def Answers (log : Log) : Call → Answer → Prop
  | .bind id _, answer =>
    answer =
      if id = reservedId then .refused .reservedNodeId
      else if (log id).isSome then .refused (.duplicateBinding id)
      else .bound
  | .rebind id _, answer =>
    answer =
      match log id with
      | none => .refused (.unknownNode id)
      | some entry => .replaced entry.node
  | .unbind id, answer => answer = .released ((log id).map (·.node))
  | .unbindWhere test, answer =>
    ∃ ids, answer = .releasedAll ids ∧ ids.Nodup ∧
      ∀ id, id ∈ ids ↔ ∃ entry, log id = some entry ∧ test entry.node

/-- Whether one id was bound before another; both are bound now. -/
def Before (log : Log) (a b : NodeId) : Prop :=
  ∃ first second, log a = some first ∧ log b = some second ∧ first.time < second.time

end Log

/-- The table answers every question as the log does. -/
structure Agrees (table : Bindings) (log : Log) : Prop where
  /-- An id names the node of its latest binding. -/
  lookup : ∀ id, table.lookup? id = (log id).map (·.node)
  /-- A node lists the ids whose latest binding names it. -/
  mem_idsOf : ∀ node id, id ∈ table.idsOf node ↔ ∃ time, log id = some ⟨node, time⟩
  /-- No id is listed twice. -/
  nodup : ∀ node, (table.idsOf node).Nodup
  /-- The ids of a node stand in the order in which they were bound. -/
  ordered : ∀ node, (table.idsOf node).Pairwise log.Before
  /-- The last of them speaks for the node. -/
  speaker : ∀ node, table.idOf? node = (table.idsOf node).getLast?
  /-- All others were bound before the one that speaks. -/
  newest : ∀ node id, table.idOf? node = some id →
    id ∈ table.idsOf node ∧ ∀ other ∈ table.idsOf node, other = id ∨ log.Before other id
  /-- The size of the table is the number of bound ids. -/
  size : ∃ ids : List NodeId, ids.Nodup ∧ (∀ id, id ∈ ids ↔ (log id).isSome) ∧
    table.size = ids.length
  /-- The reserved id is never bound. -/
  reserved : table.lookup? reservedId = none

/-! ## The table follows the log -/

/-- What each call keeps: a sound table with the log's nodes and order, and no
binding in the future. -/
structure Follows (table : Bindings) (log : Log) (now : Nat) : Prop where
  sound : table.Sound
  lookup : ∀ id, table.lookup? id = (log id).map (·.node)
  ordered : ∀ node, (table.idsOf node).Pairwise log.Before
  past : ∀ id entry, log id = some entry → entry.time < now

/-- The empty table follows the empty log. -/
theorem follows_empty : Follows empty Log.empty 0 where
  sound := sound_empty
  lookup _ := rfl
  ordered _ := List.Pairwise.nil
  past _ _ h := by cases h

/-- A later clock does no harm. -/
theorem Follows.tick {table : Bindings} {log : Log} {now : Nat} (h : table.Follows log now) :
    table.Follows log (now + 1) where
  sound := h.sound
  lookup := h.lookup
  ordered := h.ordered
  past id entry he := Nat.lt_succ_of_lt (h.past id entry he)

/-- A bound id has an entry in the log, with the node that it names and a time in the past. -/
theorem Follows.log_eq {table : Bindings} {log : Log} {now : Nat} (h : table.Follows log now)
    {id : NodeId} {node : Handle} (hl : table.lookup? id = some node) :
    ∃ time, log id = some ⟨node, time⟩ ∧ time < now := by
  rw [h.lookup] at hl
  obtain ⟨entry, he, rfl⟩ := Option.map_eq_some_iff.mp hl
  exact ⟨entry.time, he, h.past id entry he⟩

/-- The log answers for another id after a binding as it did before. -/
theorem Log.put_of_ne {id a : NodeId} (log : Log) (entry : LogEntry) (h : a ≠ id) :
    log.put id entry a = log a := by
  rw [Log.put, if_neg (Ne.symm h)]

/-- Ids that are in no way touched keep their order when the log changes elsewhere. -/
theorem pairwise_before_of_agree {log log' : Log} {ids : List NodeId}
    (hp : ids.Pairwise log.Before) (ha : ∀ a ∈ ids, log' a = log a) : ids.Pairwise log'.Before := by
  apply hp.imp_of_mem
  rintro a b hma hmb ⟨first, second, hf, hs, ht⟩
  exact ⟨first, second, (ha a hma).trans hf, (ha b hmb).trans hs, ht⟩

/-- Naming a node by an id that is in no list puts the id last. -/
theorem pairwise_before_assign {table : Bindings} {log : Log} {now : Nat} {id : NodeId}
    (node : Handle) (ho : ∀ n, (table.idsOf n).Pairwise log.Before)
    (hm : ∀ n a, a ∈ table.idsOf n → a ≠ id ∧ ∃ entry, log a = some entry ∧ entry.time < now)
    (n : Handle) :
    ((table.assign id node).idsOf n).Pairwise (log.put id ⟨node, now⟩).Before := by
  have hkeep : ∀ n, (table.idsOf n).Pairwise (log.put id ⟨node, now⟩).Before := fun n =>
    pairwise_before_of_agree (ho n) fun a ha => Log.put_of_ne log _ (hm n a ha).1
  rw [idsOf_assign]
  split
  · rw [List.pairwise_append]
    refine ⟨hkeep node, List.pairwise_singleton _ _, ?_⟩
    intro a ha b hb
    rw [List.mem_singleton.mp hb]
    obtain ⟨hne, entry, he, ht⟩ := hm node a ha
    exact ⟨entry, ⟨node, now⟩, (Log.put_of_ne log _ hne).trans he, if_pos rfl, ht⟩
  · exact hkeep n

/-- An entry that is made now lies in the past of the next call. -/
theorem past_put {log : Log} {now : Nat} (hp : ∀ id entry, log id = some entry → entry.time < now)
    (id : NodeId) (node : Handle) :
    ∀ a entry, log.put id ⟨node, now⟩ a = some entry → entry.time < now + 1 := by
  intro a entry he
  by_cases ha : id = a
  · rw [Log.put, if_pos ha] at he
    cases he
    exact Nat.lt_succ_self now
  · rw [Log.put, if_neg ha] at he
    exact Nat.lt_succ_of_lt (hp a entry he)

/-! ## One call -/

/-- A binding moves table and log together; a refused one moves neither. -/
theorem follows_bind {table : Bindings} {log : Log} {now : Nat} (h : table.Follows log now)
    (id : NodeId) (node : Handle) :
    (table.perform (.bind id node)).2.Follows (log.record now (.bind id node)) (now + 1) := by
  have hsome : (table.lookup? id).isSome = (log id).isSome := by simp [h.lookup]
  by_cases hid : id = reservedId
  · simpa [perform, bindInPlace_eq, bind_eq, Log.record, hid] using h.tick
  by_cases hl : (log id).isSome
  · simpa [perform, bindInPlace_eq, bind_eq, Log.record, hid, hl, hsome] using h.tick
  have hb : table.bind id node = .ok (table.assign id node) := by
    simp [bind_eq, hid, hsome, hl]
  have hrecord : log.record now (.bind id node) = log.put id ⟨node, now⟩ := by
    simp [Log.record, hid, hl]
  simp only [perform, bindInPlace_eq, hb, hrecord]
  refine ⟨sound_bind h.sound hb, ?_, ?_, past_put h.past id node⟩
  · intro a
    rw [lookup?_assign, Log.put]
    split
    · rfl
    · exact h.lookup a
  · apply pairwise_before_assign node h.ordered
    intro n a ha
    have hn := (h.sound.mem_idsOf_iff a n).mp ha
    obtain ⟨time, he, ht⟩ := h.log_eq hn
    refine ⟨?_, _, he, ht⟩
    rintro rfl
    simp [he] at hl

theorem follows_rebind {table : Bindings} {log : Log} {now : Nat} (h : table.Follows log now)
    (id : NodeId) (node : Handle) :
    (table.perform (.rebind id node)).2.Follows (log.record now (.rebind id node)) (now + 1) := by
  cases hl : table.lookup? id with
  | none =>
    have hnone : log id = none := by simpa [h.lookup] using hl
    simpa [perform, rebindInPlace_eq, rebind_eq, Log.record, hl, hnone] using h.tick
  | some previous =>
    obtain ⟨time, he, -⟩ := h.log_eq hl
    have hb : table.rebind id node =
        .ok (previous, (table.forgetAlias previous id).assign id node) := by
      rw [rebind_eq, hl]
    have hrecord : log.record now (.rebind id node) = log.put id ⟨node, now⟩ := by
      simp [Log.record, he]
    simp only [perform, rebindInPlace_eq, hb, hrecord]
    refine ⟨sound_rebind h.sound hb, ?_, ?_, past_put h.past id node⟩
    · intro a
      rw [lookup?_assign, lookup?_forgetAlias, Log.put]
      split
      · rfl
      · exact h.lookup a
    · apply pairwise_before_assign node
      · intro n
        rw [idsOf_forgetAlias]
        split
        · exact (h.ordered previous).filter _
        · exact h.ordered n
      · intro n a ha
        obtain ⟨hne, hn⟩ := (mem_idsOf_forgetAlias h.sound hl a n).mp ha
        obtain ⟨time, he, ht⟩ := h.log_eq hn
        exact ⟨hne, _, he, ht⟩

theorem follows_unbind {table : Bindings} {log : Log} {now : Nat} (h : table.Follows log now)
    (id : NodeId) :
    (table.perform (.unbind id)).2.Follows (log.record now (.unbind id)) (now + 1) := by
  refine ⟨sound_unbind h.sound id, ?_, ?_, ?_⟩
  · intro a
    simp only [perform, Log.record]
    rw [lookup?_unbind, h.lookup]
    split <;> rfl
  · intro n
    simp only [perform, Log.record]
    rw [idsOf_unbind h.sound]
    apply pairwise_before_of_agree ((h.ordered n).filter _)
    intro a ha
    have hne : a ≠ id := by simpa using (List.mem_filter.mp ha).2
    exact if_neg (Ne.symm hne)
  · intro a entry he
    simp only [Log.record] at he
    split at he
    · cases he
    · exact Nat.lt_succ_of_lt (h.past a entry he)

/-- Ids that are released because of their nodes move table and log together. -/
theorem follows_unbindWhere {table : Bindings} {log : Log} {now : Nat} (h : table.Follows log now)
    (test : Handle → Bool) :
    (table.perform (.unbindWhere test)).2.Follows (log.record now (.unbindWhere test))
      (now + 1) := by
  refine ⟨sound_unbindWhere h.sound test, ?_, ?_, ?_⟩
  · intro a
    simp only [perform, Log.record]
    rw [lookup?_unbindWhere h.sound, h.lookup]
    cases log a with
    | none => rfl
    | some entry => cases ht : test entry.node <;> simp [Option.filter, ht]
  · intro n
    simp only [perform, Log.record]
    rw [idsOf_unbindWhere h.sound]
    split
    · exact List.Pairwise.nil
    · rename_i ht
      apply pairwise_before_of_agree (h.ordered n)
      intro a ha
      obtain ⟨time, he, -⟩ := h.log_eq ((h.sound.mem_idsOf_iff a n).mp ha)
      simp [he, Option.filter, ht]
  · intro a entry he
    have hl := (Option.filter_eq_some_iff.mp he).1
    exact Nat.lt_succ_of_lt (h.past a entry hl)

/-- Whatever the call, table and log move together. -/
theorem Follows.perform {table : Bindings} {log : Log} {now : Nat} (h : table.Follows log now)
    (call : Call) : (table.perform call).2.Follows (log.record now call) (now + 1) := by
  cases call with
  | bind id node => exact follows_bind h id node
  | rebind id node => exact follows_rebind h id node
  | unbind id => exact follows_unbind h id
  | unbindWhere test => exact follows_unbindWhere h test

/-- A call on a table that follows a log answers what the log says. -/
theorem Follows.answers {table : Bindings} {log : Log} {now : Nat} (h : table.Follows log now)
    (call : Call) : log.Answers call (table.perform call).1 := by
  cases call with
  | bind id node =>
    have hsome : (table.lookup? id).isSome = (log id).isSome := by simp [h.lookup]
    simp only [Log.Answers, Bindings.perform, bindInPlace_eq, bind_eq, hsome]
    by_cases hid : id = reservedId
    · simp [hid]
    · by_cases hl : (log id).isSome <;> simp [hid, hl]
  | rebind id node =>
    simp only [Log.Answers, Bindings.perform, rebindInPlace_eq, rebind_eq, h.lookup]
    cases log id <;> rfl
  | unbind id =>
    simp only [Log.Answers, Bindings.perform, ← h.lookup]
    unfold Bindings.unbind
    cases hl : table.lookup? id <;> rfl
  | unbindWhere test =>
    refine ⟨(table.unbindWhere test).1, rfl, nodup_unbindWhere h.sound test, ?_⟩
    intro id
    rw [mem_unbindWhere_iff h.sound, h.lookup]
    cases log id <;> simp

/-- A table that follows a log agrees with it. -/
theorem Follows.agrees {table : Bindings} {log : Log} {now : Nat} (h : table.Follows log now) :
    table.Agrees log where
  lookup := h.lookup
  mem_idsOf node id := by
    rw [h.sound.mem_idsOf_iff, h.lookup]
    constructor
    · intro hm
      obtain ⟨entry, he, rfl⟩ := Option.map_eq_some_iff.mp hm
      exact ⟨entry.time, he⟩
    · rintro ⟨time, he⟩
      rw [he]
      rfl
  nodup := h.sound.nodup
  ordered := h.ordered
  speaker _ := rfl
  newest node id hid := by
    obtain ⟨earlier, he⟩ := List.getLast?_eq_some_iff.mp hid
    have hp := h.ordered node
    rw [he] at hp ⊢
    refine ⟨List.mem_append_right _ (List.mem_singleton.mpr rfl), ?_⟩
    intro other ho
    rcases List.mem_append.mp ho with hm | hm
    · exact Or.inr ((List.pairwise_append.mp hp).2.2 other hm id (List.mem_singleton.mpr rfl))
    · exact Or.inl (List.mem_singleton.mp hm)
  size := by
    refine ⟨table.nodes.map Prod.fst, h.sound.distinct, ?_, by simp [Bindings.size]⟩
    intro id
    have hs : (table.lookup? id).isSome = (log id).isSome := by simp [h.lookup]
    rw [Keyed.mem_keys_iff, ← hs]
    rfl
  reserved := h.sound.reserved

/-! ## Whole runs -/

/-- Table and log move together along any list of calls. -/
theorem Follows.performAll {table : Bindings} {log : Log} {now : Nat} (h : table.Follows log now)
    (calls : List Call) :
    (calls.foldl (fun table call => (table.perform call).2) table).Follows
      (log.recordAll now calls) (now + calls.length) := by
  induction calls generalizing table log now with
  | nil => exact h
  | cons call rest ih =>
    have hr := ih (h.perform call)
    rw [Nat.add_right_comm, Nat.add_assoc] at hr
    exact hr

/-- After every run of calls the table agrees with the log of the run, the next
call answers what the log says, and a refused call changes nothing. -/
theorem afterCalls_refines_log (calls : List Call) (call : Call) :
    (afterCalls calls).Agrees (Log.empty.recordAll 0 calls) ∧
      (Log.empty.recordAll 0 calls).Answers call ((afterCalls calls).perform call).1 ∧
      ∀ e, ((afterCalls calls).perform call).1 = .refused e →
        ((afterCalls calls).perform call).2 = afterCalls calls := by
  have h := follows_empty.performAll calls
  exact ⟨h.agrees, h.answers call, fun e he => perform_of_refused _ call he⟩

end PageHost.Bindings
