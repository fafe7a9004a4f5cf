import PageHost.Proofs.Document.Listeners
import PageHost.Proofs.Document.Live
/-!
# Detaching nodes

A node that is detached loses its parent, the list of the parent loses it, and it and
what lies below it is not live any more. Nothing of this depends on which other nodes
have been detached before: a node that lies below two of them is below one of them
whatever the order.
-/

namespace PageHost.Document

/-- The document with a node out of its place, if it has one. -/
def detached (doc : Document) (h : Handle) : Document :=
  if (doc.parent? h).isSome then doc.unlink h else doc

/-- Detaching a node that exists succeeds, and tells whether it had a parent. -/
theorem detach_eq {doc : Document} {h : Handle} (hs : h < doc.size) :
    detach h doc = .ok (doc.parent? h).isSome (doc.detached h) := by
  unfold detach detached
  rw [if_pos ((contains_iff doc h).mpr hs)]
  split
  · rename_i hp
    rw [hp]
  · rename_i hp
    rw [Bool.eq_false_iff.mpr hp]

/-! ## What lies below -/

section Below

variable {a b : Document} {h top x : Handle} {nodes : List Handle}

/-- What is below a node afterwards was below it before. -/
theorem Loosened.below (hl : Loosened a nodes b) (hb : b.Below top x) : a.Below top x := by
  induction hb with
  | here => exact .here
  | child _ hc ih =>
    rw [hl.children] at hc
    exact ih.child (List.mem_filter.mp hc).1

/-- What was below a node is still below it, unless it is below the one that left its place. -/
theorem Loosened.below_or (hl : Loosened a [h] b) (hb : a.Below top x) :
    b.Below top x ∨ a.Below h x := by
  induction hb with
  | here => exact Or.inl .here
  | @child p c _ hc ih =>
    rcases ih with hstill | hbelow
    · by_cases he : c = h
      · exact Or.inr (he ▸ .here)
      · have hkept : c ∈ b.children p := by
          rw [hl.children, List.mem_filter]
          exact ⟨hc, by simpa using he⟩
        exact Or.inl (hstill.child hkept)
    · exact Or.inr (hbelow.child hc)

/-- A node takes along what lies below it. -/
theorem Loosened.below_self (ht : a.Treelike) (hl : Loosened a [h] b) (hb : a.Below h x) :
    b.Below h x := by
  induction hb with
  | here => exact .here
  | @child p c hp hc ih =>
    have hne : c ≠ h := by
      rintro rfl
      have hup := ht.parent_of_mem p c hc
      apply ht.not_above_self c
      rw [above_iff hup]
      rcases hp.above ht with rfl | habove
      · exact Or.inl rfl
      · exact Or.inr habove
    apply ih.child
    rw [hl.children, List.mem_filter]
    exact ⟨hc, by simpa using hne⟩

end Below

/-! ## What is live -/

/-- Marking nodes leaves the others as live as they were. -/
theorem live_markAll_of_not_mem {doc : Document} {mark : Bool} {nodes : List Handle} {x : Handle}
    (h : x ∉ nodes) :
    (nodes.foldl (fun doc d => doc.update d fun place => { place with live := mark }) doc).live x =
      doc.live x := by
  induction nodes generalizing doc with
  | nil => rfl
  | cons d rest ih =>
    rw [List.mem_cons, not_or] at h
    exact (ih h.2).trans (live_of_node?_eq (doc.node?_update_of_ne h.1 _))

/-- When a node leaves its place, exactly the nodes at or below it stop being live. -/
theorem live_unlink_iff {doc : Document} (ht : doc.Treelike) {h : Handle} (hs : h < doc.size)
    (x : Handle) : (doc.unlink h).live x = true ↔ doc.live x = true ∧ ¬ doc.Below h x := by
  have hl := loosened_cut ht h
  have hcut : ∀ y, (doc.cut h).live y = doc.live y := by
    intro y
    unfold cut
    cases doc.parent? h <;> simp
  have hbelow : x ∈ (doc.cut h).descendants h ↔ doc.Below h x := by
    rw [mem_descendants_iff (hl.treelike ht) ((hl.lt_size_iff h).mpr hs)]
    exact ⟨hl.below, hl.below_self ht⟩
  rw [← hbelow]
  constructor
  · intro hx
    rcases live_markAll hx with ⟨-, hfalse, -⟩ | ⟨hm, hlive⟩
    · cases hfalse
    · exact ⟨(hcut x).symm.trans hlive, hm⟩
  · rintro ⟨hlive, hm⟩
    exact ((live_markAll_of_not_mem hm).trans (hcut x)).trans hlive

/-! ## Two nodes -/

/-- Nothing is noted when a node leaves its place. -/
theorem markers_unlink (doc : Document) (h : Handle) :
    (doc.unlink h).nodes.markers = doc.nodes.markers := by
  have hmark : ∀ (nodes : List Handle) (doc : Document), (nodes.foldl (fun doc d =>
      doc.update d fun place => { place with live := false }) doc).nodes.markers =
        doc.nodes.markers := by
    intro nodes
    induction nodes with
    | nil => exact fun _ => rfl
    | cons d rest ih => exact fun doc => ih _
  refine (hmark _ (doc.cut h)).trans ?_
  unfold cut
  cases doc.parent? h <;> rfl

/-- Documents with the same nodes and the same tables are the same. -/
theorem eq_of_node? {a b : Document} (h : ∀ x, b.node? x = a.node? x)
    (hm : b.nodes.markers = a.nodes.markers) (hl : b.rootListeners = a.rootListeners) : b = a := by
  have hrecords : b.nodes.records = a.nodes.records :=
    Array.ext_getElem? fun x => by rw [record?_eq, h, ← record?_eq]
  obtain ⟨⟨records, markers, fitting⟩, listeners⟩ := a
  obtain ⟨⟨records', markers', fitting'⟩, listeners'⟩ := b
  cases hrecords
  cases hm
  cases hl
  rfl

/-- What is live after two nodes have left their places. -/
theorem live_unlink_unlink {doc : Document} (ht : doc.Treelike) {a b : Handle} (ha : a < doc.size)
    (hb : b < doc.size) (x : Handle) :
    ((doc.unlink a).unlink b).live x = true ↔
      doc.live x = true ∧ ¬ doc.Below a x ∧ ¬ doc.Below b x := by
  have hl := loosened_unlink ht a
  have hb' : b < (doc.unlink a).size := (hl.lt_size_iff b).mpr hb
  rw [live_unlink_iff (hl.treelike ht) hb', live_unlink_iff ht ha, and_assoc]
  refine and_congr_right fun _ => and_congr_right fun hna => not_congr ?_
  exact ⟨hl.below, fun hbelow => (hl.below_or hbelow).resolve_right hna⟩

/-- Two nodes can leave their places in either order. -/
theorem unlink_comm {doc : Document} (ht : doc.Treelike) {a b : Handle} (ha : a < doc.size)
    (hb : b < doc.size) : (doc.unlink a).unlink b = (doc.unlink b).unlink a := by
  have hab := (loosened_unlink ht a).trans
    (loosened_unlink ((loosened_unlink ht a).treelike ht) b)
  have hba := (loosened_unlink ht b).trans
    (loosened_unlink ((loosened_unlink ht b).treelike ht) a)
  apply eq_of_node?
  · intro x
    apply node?_eq_of_views
    · rw [hab.content, hba.content]
    · rw [hab.parent, hba.parent]
      simp only [List.mem_append, or_comm]
    · rw [hab.children, hba.children]
      simp only [List.mem_append, or_comm]
    · rw [Bool.eq_iff_iff, live_unlink_unlink ht ha hb, live_unlink_unlink ht hb ha]
      exact and_congr_right fun _ => and_comm
  · simp only [markers_unlink]
  · simp only [rootListeners_unlink]

/-- Detaching leaves the root listeners as they are. -/
theorem rootListeners_detached (doc : Document) (h : Handle) :
    (doc.detached h).rootListeners = doc.rootListeners := by
  unfold detached
  split
  · exact rootListeners_unlink doc h
  · rfl

/-- The detached node has no parent, and all others keep theirs. -/
theorem parent?_detached {doc : Document} (ht : doc.Treelike) (h x : Handle) :
    (doc.detached h).parent? x = if x = h then none else doc.parent? x := by
  unfold detached
  split
  · rw [(loosened_unlink ht h).parent]
    simp
  · rename_i hp
    split
    · rename_i hx
      rw [hx]
      simpa using hp
    · rfl

/-- Two nodes can be detached in either order. -/
theorem detached_comm {doc : Document} (ht : doc.Treelike) {a b : Handle} (ha : a < doc.size)
    (hb : b < doc.size) : (doc.detached a).detached b = (doc.detached b).detached a := by
  by_cases hab : a = b
  · rw [hab]
  have hpb := parent?_detached ht a b
  have hpa := parent?_detached ht b a
  rw [if_neg (Ne.symm hab)] at hpb
  rw [if_neg hab] at hpa
  show (if ((doc.detached a).parent? b).isSome then _ else _) =
    if ((doc.detached b).parent? a).isSome then _ else _
  rw [hpb, hpa]
  unfold detached
  split
  · split
    · exact unlink_comm ht ha hb
    · rfl
  · rfl

/-! ## The root listeners -/

section Listeners

variable (doc : Document) (names : List String)

/-- The walk does not look at the root listeners. -/
theorem visit_listeners (bound : Nat) (stack : List Handle) :
    ({ doc with rootListeners := names } : Document).visit bound stack = doc.visit bound stack := by
  induction bound generalizing stack with
  | zero => cases stack <;> rfl
  | succ bound ih =>
    cases stack with
    | nil => rfl
    | cons h rest =>
      have hn : ({ doc with rootListeners := names } : Document).node? h = doc.node? h := rfl
      rw [visit, visit, hn]
      cases doc.node? h with
      | none => exact ih rest
      | some node => exact congrArg (Option.map (h :: ·)) (ih (node.children ++ rest))

theorem markLive_listeners (h : Handle) (live : Bool) :
    ({ doc with rootListeners := names } : Document).markLive h live =
      { doc.markLive h live with rootListeners := names } := by
  have hd : ({ doc with rootListeners := names } : Document).descendants h = doc.descendants h :=
    congrArg (Option.getD · []) (visit_listeners doc names _ _)
  unfold markLive
  rw [hd]
  generalize doc.descendants h = below
  clear hd
  induction below generalizing doc with
  | nil => rfl
  | cons d rest ih => exact ih (doc.update d fun place => { place with live := live })

theorem cut_listeners (h : Handle) :
    ({ doc with rootListeners := names } : Document).cut h =
      { doc.cut h with rootListeners := names } := by
  have hp : ({ doc with rootListeners := names } : Document).parent? h = doc.parent? h := rfl
  unfold cut
  rw [hp]
  cases doc.parent? h <;> rfl

/-- For which events the page listens makes no difference to a node that is detached. -/
theorem detached_listeners (h : Handle) :
    ({ doc with rootListeners := names } : Document).detached h =
      { doc.detached h with rootListeners := names } := by
  have hunlink : ({ doc with rootListeners := names } : Document).unlink h =
      { doc.unlink h with rootListeners := names } := by
    show (({ doc with rootListeners := names } : Document).cut h).markLive h false = _
    rw [cut_listeners]
    exact markLive_listeners (doc.cut h) names h false
  have hp : ({ doc with rootListeners := names } : Document).parent? h = doc.parent? h := rfl
  unfold detached
  rw [hp, hunlink]
  split <;> rfl

end Listeners

end PageHost.Document
