import PageHost.Proofs.Document.Copy
import PageHost.Proofs.Document.Insert
/-!
# Nodes that their parents list

In a treelike document a node may have a parent that does not list it. Such a
node is lost: the walk upwards finds the page above it, the walk downwards does
not find it. A document in which every parent lists its children loses a node
only when an insertion moves one node twice, and then it does lose it.
-/

namespace PageHost.Document

/-- Every node that has a parent is listed by it. -/
def AllListed (doc : Document) : Prop := ∀ p c, doc.parent? c = some p → c ∈ doc.children p

/-- On the blank page every node that has a parent is listed by it. -/
theorem allListed_blank : blank.AllListed := by
  intro p c hp
  rcases parent?_blank hp with ⟨rfl, rfl⟩ | ⟨rfl, rfl⟩ | ⟨rfl, rfl⟩ <;> decide

/-- Documents with the same links list the same nodes. -/
theorem Alike.allListed {a b : Document} (h : a.Alike b) (ha : a.AllListed) : b.AllListed := by
  intro p c hp
  rw [h.parent] at hp
  rw [h.children]
  exact ha p c hp

/-- A fresh node without a parent is not lost. -/
theorem allListed_push {doc : Document} (ht : doc.Treelike) (ha : doc.AllListed)
    (content : Content) (live : Bool) : (doc.push ⟨content, none, [], live⟩).AllListed := by
  intro p c hp
  rw [parent?_push] at hp
  split at hp
  · cases hp
  · rw [children_push, if_neg (Nat.ne_of_lt (ht.parent_lt_size hp))]
    exact ha p c hp

/-- A copy below no parent has no lost node. -/
theorem Planted.allListed {a b : Document} {tops : List Handle} (h : Planted a none tops b)
    (ht : a.Treelike) (ha : a.AllListed) : b.AllListed := by
  intro p c hp
  by_cases hc : c < a.size
  · rw [parent?_of_node?_eq (h.frame c hc)] at hp
    rw [children_of_node?_eq (h.frame p (ht.parent_lt_size hp))]
    exact ha p c hp
  · have hle : a.size ≤ c := Nat.le_of_not_lt hc
    have htop : c ∉ tops := by
      intro hm
      rw [(h.fresh c hm).2.2] at hp
      cases hp
    obtain ⟨q, hq, hm⟩ := h.listed c hle (lt_size_of_parent? hp) htop
    rw [hp] at hq
    cases hq
    exact hm

/-! ## Taking nodes away -/

/-- Taking nodes out leaves every node listed that still has a parent. -/
theorem Loosened.allListed {a b : Document} {nodes : List Handle} (h : Loosened a nodes b)
    (ha : a.AllListed) : b.AllListed := by
  intro p c hp
  obtain ⟨hn, hold⟩ := h.parent_of_some hp
  rw [h.children, List.mem_filter]
  exact ⟨ha p c hold, by simpa using hn⟩

/-- Taking listed nodes away neither loses nor finds a node. -/
theorem Loosened.allListed_iff {a b : Document} {nodes : List Handle} (h : Loosened a nodes b)
    (hn : ∀ c ∈ nodes, ∀ p, a.parent? c = some p → c ∈ a.children p) :
    b.AllListed ↔ a.AllListed := by
  constructor
  · intro hb p c hp
    by_cases hc : c ∈ nodes
    · exact hn c hc p hp
    · have hm : c ∈ b.children p := by
        apply hb
        rw [h.parent, if_neg hc, hp]
      rw [h.children] at hm
      exact (List.mem_filter.mp hm).1
  · exact h.allListed

/-! ## Putting nodes into a list -/

/-- Growing neither loses nor finds a node. -/
theorem Grows.allListed_iff {base b : Document} (h : Grows base b) :
    b.AllListed ↔ base.AllListed := by
  constructor
  · intro hb p c hp
    have hc := lt_size_of_parent? hp
    obtain ⟨fresh, he, hf⟩ := h.children_eq_append p
    have hm : c ∈ b.children p := by
      apply hb
      rw [h.parent?_eq hc, hp]
    rw [he] at hm
    rcases List.mem_append.mp hm with hm | hm
    · exact hm
    · exact absurd (hf c hm) (Nat.not_le.mpr hc)
  · intro ha p c hp
    by_cases hc : c < base.size
    · rw [h.parent?_eq hc] at hp
      exact h.mem_children (ha p c hp)
    · obtain ⟨q, hq, hm⟩ := h.listed_of_fresh (Nat.le_of_not_lt hc) (lt_size_of_parent? hp)
      rw [hp] at hq
      cases hq
      exact hm

section Link

variable {a b : Document} {parent : Handle} {place : List Handle → List Handle}
  {nodes : List Handle}

/-- Putting parentless nodes into a list loses those that are put in twice. -/
theorem Relinked.allListed_iff (h : Relinked a parent place nodes b) (hn : a.Placeable parent nodes)
    (ht : a.Treelike) (hperm : (place (a.children parent)).Perm (a.children parent ++ nodes))
    (ha : a.AllListed) : b.AllListed ↔ nodes.Nodup := by
  have hcount := h.count_children hn ht hperm
  constructor
  · intro hb
    rw [List.nodup_iff_count]
    intro c
    by_cases hc : c ∈ nodes
    · have hm : c ∈ b.children parent := by
        apply hb
        rw [h.parent, if_pos hc]
      have hold : c ∉ a.children parent := hn.not_listed ht hc parent
      have hpos : 0 < (b.children parent).count c := List.count_pos_iff.mpr hm
      rw [hcount] at hpos
      by_cases hone : nodes.count c = 1
      · exact Nat.le_of_eq hone
      · simp [hold, hone] at hpos
    · rw [List.count_eq_zero.mpr hc]
      exact Nat.zero_le 1
  · intro hnodup p c hp
    rw [h.parent] at hp
    by_cases hc : c ∈ nodes
    · rw [if_pos hc] at hp
      cases hp
      have hone : nodes.count c = 1 := by
        rw [hnodup.count, if_pos hc]
      apply List.count_pos_iff.mp
      rw [hcount, if_pos (Or.inr hone)]
      exact Nat.one_pos
    · rw [if_neg hc] at hp
      have hm := ha p c hp
      by_cases hparent : parent = p
      · subst hparent
        apply List.count_pos_iff.mp
        rw [hcount, if_pos (Or.inl hm)]
        exact Nat.one_pos
      · rw [h.children, if_neg hparent]
        exact hm

/-- Linking loses the nodes that are linked twice. -/
theorem allListed_link {doc : Document} (hn : doc.Placeable parent nodes) (ht : doc.Treelike)
    (hperm : (place (doc.children parent)).Perm (doc.children parent ++ nodes))
    (ha : doc.AllListed) : (doc.link parent place nodes).AllListed ↔ nodes.Nodup := by
  obtain ⟨b, hb, hg⟩ := exists_relinked hn place
  rw [hg.allListed_iff, hb.allListed_iff hn ht hperm ha]

/-- What was listed by the container is listed by it after linking. -/
theorem mem_children_link {doc : Document} (hn : doc.Placeable parent nodes) (ht : doc.Treelike)
    (hperm : (place (doc.children parent)).Perm (doc.children parent ++ nodes)) {c : Handle}
    (hc : c ∈ doc.children parent) : c ∈ (doc.link parent place nodes).children parent := by
  obtain ⟨b, hb, hg⟩ := exists_relinked hn place
  apply hg.mem_children
  apply List.count_pos_iff.mp
  rw [hb.count_children hn ht hperm, if_pos (Or.inl hc)]
  exact Nat.one_pos

end Link

/-! ## Insertions -/

/-- An insertion that fails loses no node. -/
theorem Insertion.allListed_of_error {doc doc' : Document} (ht : doc.Treelike) (ha : doc.AllListed)
    {nodes : List Handle} {e : DomError} (h : Insertion doc nodes (.error e doc')) :
    doc'.AllListed := by
  cases h with
  | refused e => exact ha
  | stuck anchor hm => exact (loosened_unlinkAll ht _).allListed ha

/-- An insertion that is carried out loses a node exactly if it moves one twice. -/
theorem Insertion.allListed_iff {doc doc' : Document} (ht : doc.Treelike) (ha : doc.AllListed)
    {nodes moved : List Handle} (hf : doc.flatten nodes = .ok moved)
    (h : Insertion doc nodes (.ok () doc')) : doc'.AllListed ↔ moved.Nodup := by
  cases h with
  | @linked parent moved' place hm hperm =>
    have he := ((movable_ok_iff _ _ _ _).mp hm).2.1
    rw [hf] at he
    cases he
    have hl := loosened_unlinkAll ht moved
    exact allListed_link (placeable_of_movable ht hm) (hl.treelike ht) (hperm _) (hl.allListed ha)
  | @replaced parent moved' old place hm hperm hold =>
    have he := ((movable_ok_iff _ _ _ _).mp hm).2.1
    rw [hf] at he
    cases he
    have hl := loosened_unlinkAll ht moved
    have hp := placeable_of_movable ht hm
    have hlinked := treelike_link (hl.treelike ht) hp (hperm _)
    have hmem := mem_children_link hp (hl.treelike ht) (hperm _) hold
    have hcut := loosened_unlink hlinked old
    rw [hcut.allListed_iff, allListed_link hp (hl.treelike ht) (hperm _) (hl.allListed ha)]
    intro c hc p hcp
    rw [List.mem_singleton.mp hc] at hcp ⊢
    rw [hlinked.parent_of_mem parent old hmem] at hcp
    cases hcp
    exact hmem

/-- The nodes that an insertion moves are the operands flattened. -/
theorem Insertion.flatten_ok {doc doc' : Document} {nodes : List Handle}
    (h : Insertion doc nodes (.ok () doc')) : ∃ moved, doc.flatten nodes = .ok moved := by
  cases h with
  | linked place hm _ => exact ⟨_, ((movable_ok_iff _ _ _ _).mp hm).2.1⟩
  | replaced old place hm _ _ => exact ⟨_, ((movable_ok_iff _ _ _ _).mp hm).2.1⟩

end PageHost.Document
