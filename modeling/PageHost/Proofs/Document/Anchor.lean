import PageHost.Proofs.Document.Insert
/-!
# Anchors

An insertion before a node finds the parent of that node first and takes the moved nodes
from their places after that. In between the anchor can lose its own place: if its parent
is a fragment and itself one of the nodes, the fragment gives up its children, and the
anchor is one of them. An anchor that its parent does not list has no place to begin
with. Nothing else makes an insertion stop half-way.
-/

namespace PageHost

/-- The operation has stopped half-way. -/
def DomError.isStop : DomError → Bool
  | .unlistedAnchor _ => true
  | _ => false

namespace Document

/-! ## The checks -/

variable {doc : Document} {anchor parent : Handle} {nodes moved : List Handle} {e : DomError}

/-- A missing node does not stop an operation half-way. -/
theorem isStop_kindOf {h : Handle} (hr : doc.kindOf h = .error e) : e.isStop = false := by
  unfold kindOf at hr
  split at hr
  · cases hr
    rfl
  · cases hr

theorem isStop_flatten (hr : doc.flatten nodes = .error e) : e.isStop = false := by
  induction nodes with
  | nil => cases hr
  | cons h rest ih =>
    rw [flatten] at hr
    split at hr
    · rename_i hk
      cases hr
      exact isStop_kindOf hk
    · split at hr
      · rename_i hf
        cases hr
        exact ih hf
      · cases hr

theorem isStop_mayAllMove (hr : doc.mayAllMove parent nodes = .error e) : e.isStop = false := by
  induction nodes with
  | nil => cases hr
  | cons h rest ih =>
    rw [mayAllMove] at hr
    split at hr
    · rename_i hk
      cases hr
      exact isStop_kindOf hk
    · split at hr
      · cases hr
        rfl
      · exact ih hr

/-- Nothing that keeps nodes from being moved stops an operation half-way. -/
theorem isStop_movable (hr : doc.movable parent nodes = .error e) : e.isStop = false := by
  unfold movable at hr
  split at hr
  · rename_i hk
    cases hr
    exact isStop_kindOf hk
  · split at hr
    · split at hr
      · rename_i hf
        cases hr
        exact isStop_flatten hf
      · split at hr
        · rename_i hm
          cases hr
          exact isStop_mayAllMove hm
        · cases hr
    · cases hr
      rfl

/-- A reference that is no anchor does not stop an operation half-way. -/
theorem isStop_anchorParent {reference : Handle}
    (hr : doc.anchorParent reference nodes = .error e) : e.isStop = false := by
  unfold anchorParent at hr
  split at hr
  · split at hr
    · cases hr
      rfl
    · split at hr
      · cases hr
        rfl
      · cases hr
  · cases hr
    rfl

/-- A node among those that are inserted moves itself, or its children if it is a fragment. -/
theorem mem_flatten {n c : Handle} (h : doc.flatten nodes = .ok moved) (hn : n ∈ nodes)
    (hc : if doc.kind? n = some .fragment then c ∈ doc.children n else c = n) : c ∈ moved := by
  induction nodes generalizing moved with
  | nil => cases hn
  | cons m rest ih =>
    rw [flatten] at h
    cases hk : doc.kindOf m with
    | error e =>
      rw [hk] at h
      cases h
    | ok kind =>
      rw [hk] at h
      cases hf : doc.flatten rest with
      | error e =>
        rw [hf] at h
        cases h
      | ok later =>
        rw [hf] at h
        cases h
        rcases List.mem_cons.mp hn with rfl | hn
        · rw [(kindOf_ok_iff doc n kind).mp hk] at hc
          apply List.mem_append_left
          by_cases hfrag : kind = .fragment
          · rw [if_pos hfrag]
            rwa [if_pos (congrArg some hfrag)] at hc
          · rw [if_neg hfrag]
            rw [if_neg (fun he => hfrag (Option.some.inj he))] at hc
            exact List.mem_singleton.mpr hc
        · exact List.mem_append_right _ (ih hf hn)

/-! ## When an insertion stops -/

/-- The checks of an insertion before an anchor pass, but its parent is one of the nodes or does
not list it. -/
def Slips (doc : Document) (anchor : Handle) (nodes : List Handle) : Prop :=
  ∃ parent moved, doc.anchorParent anchor nodes = .ok parent ∧
    doc.movable parent nodes = .ok moved ∧ (parent ∈ nodes ∨ anchor ∉ doc.children parent)

/-- A parent that is itself one of the nodes is a fragment that gives up its children. -/
theorem mem_moved_of_parent_mem (hm : doc.movable parent nodes = .ok moved) (hp : parent ∈ nodes)
    {c : Handle} (hc : c ∈ doc.children parent) : c ∈ moved := by
  obtain ⟨-, hflat, hmay⟩ := (movable_ok_iff doc parent nodes moved).mp hm
  rw [mayAllMove_ok_iff] at hmay
  by_cases hk : doc.kind? parent = some .fragment
  · exact mem_flatten hflat hp (by rwa [if_pos hk])
  · have hself : parent ∈ moved := mem_flatten hflat hp (by rw [if_neg hk])
    exact absurd rfl (hmay parent hself).2.1

/-- An anchor is among the moved nodes exactly if its parent is among those that are inserted. -/
theorem anchor_mem_moved_iff (ht : doc.Treelike) (ha : doc.anchorParent anchor nodes = .ok parent)
    (hm : doc.movable parent nodes = .ok moved) (hl : anchor ∈ doc.children parent) :
    anchor ∈ moved ↔ parent ∈ nodes := by
  obtain ⟨hup, hnodes⟩ := anchorParent_ok ha
  obtain ⟨-, hflat, -⟩ := (movable_ok_iff doc parent nodes moved).mp hm
  constructor
  · intro hmem
    rcases mem_of_flatten hflat hmem with ⟨hn, -⟩ | ⟨f, hf, -, hc⟩
    · exact absurd hn hnodes
    · have hfup := ht.parent_of_mem f anchor hc
      rw [hup] at hfup
      cases hfup
      exact hf
  · exact fun hp => mem_moved_of_parent_mem hm hp hl

/-- When the nodes have left their places, the anchor still has its own unless its parent is one
of them. -/
theorem anchor_listed_iff (ht : doc.Treelike) (ha : doc.anchorParent anchor nodes = .ok parent)
    (hm : doc.movable parent nodes = .ok moved) :
    anchor ∈ (doc.unlinkAll moved).children parent ↔
      parent ∉ nodes ∧ anchor ∈ doc.children parent := by
  rw [(loosened_unlinkAll ht moved).children, List.mem_filter, and_comm, and_congr_left_iff]
  intro hl
  rw [← anchor_mem_moved_iff ht ha hm hl]
  simp

/-- The operations beside a reference node can stop half-way in their last step only. -/
theorem stops_beside {reference : Handle} {finish : Handle → List Handle → Change Unit} :
    failure ((do
      let parent ← check fun doc => doc.anchorParent reference nodes
      let moved ← prepare parent nodes
      finish parent moved : Change Unit) doc) = some (.unlistedAnchor anchor) ↔
    ∃ parent moved, doc.anchorParent reference nodes = .ok parent ∧
      doc.movable parent nodes = .ok moved ∧
      failure (finish parent moved (doc.unlinkAll moved)) = some (.unlistedAnchor anchor) := by
  cases ha : doc.anchorParent reference nodes with
  | error e =>
    rw [run_bind_of_error (check_of_error ha)]
    constructor
    · intro he
      cases he
      cases isStop_anchorParent ha
    · rintro ⟨parent, moved, h, -⟩
      cases h
  | ok parent =>
    rw [run_bind_of_ok (check_of_ok ha)]
    cases hm : doc.movable parent nodes with
    | error e =>
      rw [run_bind_of_error (prepare_of_error hm)]
      constructor
      · intro he
        cases he
        cases isStop_movable hm
      · rintro ⟨parent', moved, h, hm', -⟩
        cases h
        rw [hm] at hm'
        cases hm'
    | ok moved =>
      rw [run_bind_of_ok (prepare_of_ok hm)]
      constructor
      · exact fun h => ⟨parent, moved, rfl, hm, h⟩
      · rintro ⟨parent', moved', h, hm', hstop⟩
        cases h
        rw [hm] at hm'
        cases hm'
        exact hstop

/-- Linking before an anchor, after the nodes have left their places, stops exactly if the parent
of the anchor is one of the nodes or did not list it. -/
theorem linkBefore_stops_iff (ht : doc.Treelike) {reference : Handle}
    (ha : doc.anchorParent reference nodes = .ok parent)
    (hm : doc.movable parent nodes = .ok moved) :
    failure (linkBefore reference moved (doc.unlinkAll moved)) = some (.unlistedAnchor anchor) ↔
      anchor = reference ∧ (parent ∈ nodes ∨ reference ∉ doc.children parent) := by
  have hlisted := anchor_listed_iff ht ha hm
  by_cases hmem : reference ∈ (doc.unlinkAll moved).children parent
  · obtain ⟨hfree, hold⟩ := hlisted.mp hmem
    have hup := ((loosened_unlinkAll ht moved).treelike ht).parent_of_mem parent reference hmem
    rw [linkBefore_of_mem moved hup hmem]
    constructor
    · exact nofun
    · rintro ⟨-, hp | hl⟩
      · exact absurd hp hfree
      · exact absurd hold hl
  · have hunlisted : ∀ p, (doc.unlinkAll moved).parent? reference = some p →
        reference ∉ (doc.unlinkAll moved).children p := by
      intro p hp
      have hold := ((loosened_unlinkAll ht moved).parent_of_some hp).2
      rw [(anchorParent_ok ha).1] at hold
      cases hold
      exact hmem
    rw [linkBefore_of_not_mem moved hunlisted]
    constructor
    · intro he
      cases he
      refine ⟨rfl, ?_⟩
      by_cases hp : parent ∈ nodes
      · exact Or.inl hp
      · exact Or.inr fun hl => hmem (hlisted.mpr ⟨hp, hl⟩)
    · rintro ⟨rfl, -⟩
      rfl

/-- Putting nodes before a reference node stops exactly if that node slips. -/
theorem insertBefore_stops_iff (ht : doc.Treelike) (reference : Handle) (nodes : List Handle) :
    failure (insertBefore reference nodes doc) = some (.unlistedAnchor anchor) ↔
      anchor = reference ∧ doc.Slips reference nodes := by
  unfold insertBefore
  rw [stops_beside]
  constructor
  · rintro ⟨parent, moved, ha, hm, hstop⟩
    obtain ⟨rfl, hslip⟩ := (linkBefore_stops_iff ht ha hm).mp hstop
    exact ⟨rfl, parent, moved, ha, hm, hslip⟩
  · rintro ⟨rfl, parent, moved, ha, hm, hslip⟩
    exact ⟨parent, moved, ha, hm, (linkBefore_stops_iff ht ha hm).mpr ⟨rfl, hslip⟩⟩

/-- Replacing a node stops exactly if that node slips. -/
theorem replaceWith_stops_iff (ht : doc.Treelike) (old : Handle) (nodes : List Handle) :
    failure (replaceWith old nodes doc) = some (.unlistedAnchor anchor) ↔
      anchor = old ∧ doc.Slips old nodes := by
  have hlast : ∀ moved (doc : Document),
      failure ((do linkBefore old moved; modify fun doc => doc.unlink old : Change Unit) doc) =
        failure (linkBefore old moved doc) := by
    intro moved doc
    cases hr : linkBefore old moved doc with
    | ok u linked => rw [run_bind_of_ok hr]; rfl
    | error cause failed => rw [run_bind_of_error hr]
  rw [← insertBefore_stops_iff ht old nodes]
  unfold replaceWith insertBefore
  rw [stops_beside, stops_beside]
  simp only [hlast]

/-- Putting nodes after a reference node never stops: the sibling that follows it is found when the
nodes have already left their places. -/
theorem insertAfter_not_stops (ht : doc.Treelike) (reference : Handle) (nodes : List Handle) :
    failure (insertAfter reference nodes doc) ≠ some (.unlistedAnchor anchor) := by
  unfold insertAfter
  rw [Ne, stops_beside]
  rintro ⟨parent, moved, -, -, hstop⟩
  have htree := (loosened_unlinkAll ht moved).treelike ht
  have hget : (get : Change Document) (doc.unlinkAll moved) =
      .ok (doc.unlinkAll moved) (doc.unlinkAll moved) := rfl
  rw [run_bind_of_ok hget] at hstop
  cases hn : (doc.unlinkAll moved).nextSibling? parent reference with
  | none =>
    rw [hn] at hstop
    cases hstop
  | some next =>
    have hmem := mem_children_of_nextSibling? hn
    rw [hn] at hstop
    dsimp only at hstop
    rw [linkBefore_of_mem moved (htree.parent_of_mem parent next hmem) hmem] at hstop
    cases hstop

/-- Adding nodes at the end of a parent needs no anchor. -/
theorem appendChildren_not_stops (doc : Document) (parent : Handle) (nodes : List Handle) :
    failure (appendChildren parent nodes doc) ≠ some (.unlistedAnchor anchor) := by
  unfold appendChildren
  intro hstop
  cases hm : doc.movable parent nodes with
  | error e =>
    rw [run_bind_of_error (prepare_of_error hm)] at hstop
    cases hstop
    cases isStop_movable hm
  | ok moved =>
    rw [run_bind_of_ok (prepare_of_ok hm)] at hstop
    cases hstop

end Document

end PageHost
