import Mathlib.Data.List.Dedup
import PageHost.Proofs.Page.Reach
/-!
# The id bound last

The history of a run is the list of the ids that its edits have bound, in order; an id that is
bound again comes again, and an id that is released is not taken out. The node that each id
names now is enough to read off it the ids of every node in the order of the table: those of the
history that name the node, each at its last mention. So the id that speaks for a node is
the one that was bound last.
-/

namespace PageHost

/-! ## Last mentions -/

section Lists

variable {α : Type} [DecidableEq α]

/-- What is kept of a list without repetitions is the list of what is kept, without repetitions. -/
theorem filter_dedup (keep : α → Bool) (l : List α) :
    l.dedup.filter keep = (l.filter keep).dedup := by
  induction l with
  | nil => rfl
  | cons a rest ih =>
    by_cases hm : a ∈ rest
    · rw [List.dedup_cons_of_mem hm, ih, List.filter_cons]
      split
      · rename_i hk
        exact (List.dedup_cons_of_mem (List.mem_filter.mpr ⟨hm, hk⟩)).symm
      · rfl
    · rw [List.dedup_cons_of_notMem hm, List.filter_cons, List.filter_cons, ih]
      split
      · exact (List.dedup_cons_of_notMem fun h => hm (List.mem_filter.mp h).1).symm
      · rfl

/-- A new mention takes the place of all older ones. -/
theorem dedup_concat (l : List α) (a : α) :
    (l ++ [a]).dedup = (l.filter fun b => !decide (b = a)).dedup ++ [a] := by
  induction l with
  | nil => rfl
  | cons b rest ih =>
    rw [List.cons_append]
    by_cases hb : b = a
    · have hdrop : ((b :: rest).filter fun c => !decide (c = a)) =
          rest.filter fun c => !decide (c = a) := List.filter_cons_of_neg (by simp [hb])
      have hm : b ∈ rest ++ [a] := by simp [hb]
      rw [List.dedup_cons_of_mem hm, ih, hdrop]
    · have hkeep : ((b :: rest).filter fun c => !decide (c = a)) =
          b :: rest.filter fun c => !decide (c = a) := List.filter_cons_of_pos (by simp [hb])
      rw [hkeep]
      by_cases hm : b ∈ rest
      · rw [List.dedup_cons_of_mem (List.mem_append_left _ hm), ih, List.dedup_cons_of_mem]
        simp [hm, hb]
      · rw [List.dedup_cons_of_notMem (by simp [hm, hb]), ih, List.dedup_cons_of_notMem]
        · rfl
        · simp [hm]

/-- The last entry survives when repetitions are removed. -/
theorem getLast?_dedup (l : List α) : l.dedup.getLast? = l.getLast? := by
  induction l with
  | nil => rfl
  | cons a rest ih =>
    by_cases hm : a ∈ rest
    · obtain ⟨last, hl⟩ := Option.ne_none_iff_exists'.mp
        (mt List.getLast?_eq_none_iff.mp (List.ne_nil_of_mem hm))
      rw [List.dedup_cons_of_mem hm, ih, List.getLast?_cons, hl]
      rfl
    · rw [List.dedup_cons_of_notMem hm, List.getLast?_cons, List.getLast?_cons, ih]

end Lists

/-! ## The table and a history -/

namespace Bindings

/-- The ids of a history that name the node now, as often as they are mentioned. -/
def mentions (table : Bindings) (history : List NodeId) (node : Handle) : List NodeId :=
  history.filter fun id => decide (table.lookup? id = some node)

/-- Every node has the ids of the history that name it, in the order of their last mentions. -/
def Recalls (table : Bindings) (history : List NodeId) : Prop :=
  ∀ node, table.idsOf node = (table.mentions history node).dedup

theorem recalls_empty : empty.Recalls [] := fun _ => rfl

/-- The id that speaks for a node is the last in the history that names it. -/
theorem Recalls.idOf? {table : Bindings} {history : List NodeId} (h : table.Recalls history)
    (node : Handle) : table.idOf? node = (table.mentions history node).getLast? := by
  rw [Bindings.idOf?, h node, getLast?_dedup]

section Change

variable {table table' : Bindings} {history : List NodeId}

/-- Ids that are released stay in the history and are passed over. -/
theorem Recalls.released (h : table.Recalls history) (keep : NodeId → Bool)
    (hl : ∀ id, table'.lookup? id = if keep id then table.lookup? id else none)
    (hi : ∀ node, table'.idsOf node = (table.idsOf node).filter keep) :
    table'.Recalls history := by
  intro node
  rw [hi, h node, filter_dedup, mentions, mentions, List.filter_filter]
  congr 1
  apply List.filter_congr
  intro id _
  rw [hl]
  cases keep id with
  | true => simp
  | false => simp

/-- An id that is bound, whether it was free or named another node, becomes the last mention. Other
nodes than the one that it names then have no mention of it to lose. -/
theorem Recalls.bound (h : table.Recalls history) {id : NodeId} {node : Handle}
    (hl : ∀ other, table'.lookup? other = if id = other then some node else table.lookup? other)
    (hi : ∀ n, table'.idsOf n =
      ((table.idsOf n).filter fun other => !decide (other = id)) ++ if n = node then [id] else []) :
    table'.Recalls (history ++ [id]) := by
  intro n
  have hold : ((table'.mentions history n).filter fun other => !decide (other = id)) =
      (table.mentions history n).filter fun other => !decide (other = id) := by
    unfold mentions
    rw [List.filter_filter, List.filter_filter]
    apply List.filter_congr
    intro other _
    rw [hl]
    by_cases ho : other = id
    · simp [ho]
    · simp [ho, Ne.symm ho]
  have hnew : table'.mentions (history ++ [id]) n =
      table'.mentions history n ++ if n = node then [id] else [] := by
    have hid : table'.lookup? id = some node := by rw [hl, if_pos rfl]
    unfold mentions
    rw [List.filter_append, List.filter_singleton, hid]
    by_cases hn : n = node
    · simp [hn]
    · simp [hn, Ne.symm hn]
  rw [hi, h n, filter_dedup, ← hold, hnew]
  split
  · rw [dedup_concat]
  · rename_i hn
    have hnone : ((table'.mentions history n).filter fun other => !decide (other = id)) =
        table'.mentions history n := by
      rw [List.filter_eq_self]
      intro other ho
      have hnames : table'.lookup? other = some n := by simpa using (List.mem_filter.mp ho).2
      have hne : other ≠ id := by
        rintro rfl
        rw [hl, if_pos rfl] at hnames
        exact hn (Option.some.inj hnames).symm
      simp [hne]
    rw [List.append_nil, List.append_nil, hnone]

end Change

section Calls

variable {table : Bindings} {history : List NodeId}

/-- A released id leaves the history as it was. -/
theorem recalls_unbind (hs : table.Sound) (h : table.Recalls history) (id : NodeId) :
    (table.unbind id).2.Recalls history := by
  apply h.released (fun other => !decide (other = id))
  · intro other
    rw [lookup?_unbind]
    by_cases ho : other = id
    · simp [ho]
    · simp [ho, Ne.symm ho]
  · exact idsOf_unbind hs id

theorem recalls_unbindWhere (hs : table.Sound) (h : table.Recalls history)
    (test : Handle → Bool) : (table.unbindWhere test).2.Recalls history := by
  rw [unbindWhere_snd]
  apply h.released (fun other => !decide (other ∈ (table.unbindWhere test).1))
  · intro other
    rw [lookup?_unbindAll]
    by_cases ho : other ∈ (table.unbindWhere test).1
    · simp [ho]
    · simp [ho]
  · exact idsOf_unbindAll hs _

/-- An assigned id is the last of the history. -/
theorem recalls_assign (hs : table.Sound) (h : table.Recalls history) {id : NodeId}
    (hfree : table.lookup? id = none) (node : Handle) :
    (table.assign id node).Recalls (history ++ [id]) := by
  have hkeep : ∀ n, ((table.idsOf n).filter fun other => !decide (other = id)) = table.idsOf n := by
    intro n
    rw [List.filter_eq_self]
    intro other ho
    have hne : other ≠ id := by
      rintro rfl
      rw [hs.mem_idsOf_iff, hfree] at ho
      cases ho
    simp [hne]
  apply h.bound (lookup?_assign table id · node)
  intro n
  rw [idsOf_assign, hkeep]
  by_cases hn : node = n
  · simp [hn]
  · simp [hn, Ne.symm hn]

/-- An id that is moved to another node is the last of the history. -/
theorem recalls_rebind (hs : table.Sound) (h : table.Recalls history) {table' : Bindings}
    {id : NodeId} {node previous : Handle} (hr : table.rebind id node = .ok (previous, table')) :
    table'.Recalls (history ++ [id]) := by
  apply h.bound (lookup?_rebind hr)
  obtain ⟨hold, rfl⟩ := rebind_ok hr
  have hforget : ∀ n, (table.forgetAlias previous id).idsOf n =
      (table.idsOf n).filter fun other => !decide (other = id) := by
    intro n
    rw [idsOf_forgetAlias]
    split
    · rename_i hn
      rw [hn]
    · rename_i hn
      symm
      rw [List.filter_eq_self]
      intro other ho
      have hne : other ≠ id := by
        rintro rfl
        rw [hs.mem_idsOf_iff, hold] at ho
        exact hn (Option.some.inj ho)
      simp [hne]
  intro n
  rw [idsOf_assign, hforget, hforget]
  by_cases hn : node = n
  · simp [hn]
  · simp [hn, Ne.symm hn]

end Calls

end Bindings

/-! ## Edits -/

/-- The id that an edit is to bind. -/
def Edit.boundId? : Edit → Option NodeId
  | .setNode id _ | .assignId _ id => some id
  | edit => edit.createdId?

/-- The id that an edit has bound when it ends so: none if it has failed. -/
def Edit.boundBy? (edit : Edit) : EStateM.Result EditError Page Tally → Option NodeId
  | .ok _ _ => edit.boundId?
  | .error _ _ => none

namespace Page

/-- The id that an edit of a run has bound. -/
def Attempt.bound? (attempt : Attempt) : Option NodeId :=
  attempt.edit.boundBy? (apply attempt.edit attempt.page)

/-- What releasing an id on a page does to the bindings. -/
theorem bindings_release (page : Page) (id : NodeId) :
    (page.release id).2.bindings = (page.bindings.unbind id).2 := by
  cases hl : page.bindings.lookup? id with
  | none =>
    rw [release_of_unbound hl, Bindings.unbind, hl]
  | some node =>
    rw [release_of_bound hl]
    exact bindings_forgetAll _ _

/-- However an edit ends, the history that it continues is recalled. -/
theorem Ends.recalls {page : Page} {edit : Edit} {result : EStateM.Result EditError Page Tally}
    (hends : Ends page edit result) (hs : page.bindings.Sound) {history : List NodeId}
    (h : page.bindings.Recalls history) :
    (left result).bindings.Recalls (history ++ (edit.boundBy? result).toList) := by
  have hsame : page.bindings.Recalls (history ++ (none : Option NodeId).toList) := by
    rwa [Option.toList_none, List.append_nil]
  cases hends with
  | refused => exact hsame
  | unnamed => exact hsame
  | @created _ id node _ hid _ _ hfree =>
    have hbound : edit.boundId? = some id := by
      cases edit with
      | setNode | assignId => cases hid
      | _ => exact hid
    show Bindings.Recalls _ (history ++ edit.boundId?.toList)
    rw [hbound]
    exact Bindings.recalls_assign hs h hfree node
  | assigned _ _ _ _ hfree => exact Bindings.recalls_assign hs h hfree _
  | seeded _ _ _ _ hfree => exact Bindings.recalls_assign hs h hfree _
  | moved id _ _ hr =>
    have hrecalls := Bindings.recalls_rebind hs h hr
    show (ite _ _ _ : Page).bindings.Recalls (history ++ [id])
    split
    · exact hrecalls
    · exact hrecalls
  | pushed => exact hsame
  | popped => exact hsame
  | written hid =>
    have hbound : edit.boundId? = none := by
      cases edit with
      | setText | setAttribute | removeAttribute => rfl
      | _ => cases hid
    show page.bindings.Recalls (history ++ edit.boundId?.toList)
    rwa [hbound]
  | unplaced => exact hsame
  | stopped => exact hsame
  | inserted _ _ hplace =>
    cases hplace with
    | append | after | before | placeholder => exact hsame
    | replace id =>
      show (Page.release _ id).2.bindings.Recalls (history ++ [])
      rw [bindings_release, List.append_nil]
      exact Bindings.recalls_unbind hs h id
  | absent => exact hsame
  | removed id =>
    show (page.release id).2.bindings.Recalls (history ++ [])
    rw [bindings_release, List.append_nil]
    exact Bindings.recalls_unbind hs h id
  | missing id =>
    show (page.release id).2.bindings.Recalls (history ++ [])
    rw [bindings_release, List.append_nil]
    exact Bindings.recalls_unbind hs h id
  | listened => exact hsame
  | unlistened => exact hsame
  | ungathered => exact hsame
  | taken | known | registered =>
    show (Page.releaseBelow _ _).bindings.Recalls (history ++ [])
    rw [bindings_releaseBelow, List.append_nil]
    exact Bindings.recalls_unbindWhere hs h _

/-! ## A run -/

/-- The ids that the edits of a run have bound, in order. -/
def history (page : Page) (batches : List (List Edit)) : List NodeId :=
  (page.allAttempts batches).filterMap Attempt.bound?

/-- After every run each node has the ids that were bound to it last and name it still, in the
order in which they were bound. -/
theorem recalls_afterBatches (document : Document) (strict : Bool) (batches : List (List Edit)) :
    ((ofDocument document strict).afterBatches batches).bindings.Recalls
      ((ofDocument document strict).history batches) := by
  let P : Page → List NodeId → Prop := fun page history =>
    page.bindings.Sound ∧ page.bindings.Recalls history
  have hrun := afterBatches_induction (P := P)
    (f := fun history attempt => history ++ attempt.bound?.toList)
    (fun page history edit h => ⟨sound_apply h.1 edit, (ends_apply page edit).recalls h.1 h.2⟩)
    (fun _ _ h => h) batches (ofDocument document strict) []
    ⟨Bindings.sound_empty, Bindings.recalls_empty⟩
  rw [history, List.filterMap_eq_flatMap_toList, List.flatMap_eq_foldl]
  exact hrun.2

end Page

end PageHost
