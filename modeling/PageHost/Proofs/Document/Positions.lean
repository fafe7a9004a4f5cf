import Mathlib.Data.List.Nodup
import Mathlib.Data.Option.Basic
import PageHost.Proofs.Document.Preorder
/-!
# Positions

The position of a node below another one is the list of child positions that lead down to it.
The positions of a tree, taken in lexicographic order, lead to the nodes that the walk downwards
lists, in the order in which it lists them. So document order is the order of positions, whatever
node one looks down from.
-/

namespace PageHost

namespace Tree

mutual

/-- The positions in a tree, the top first. -/
def positions : Tree → List (List Nat)
  | .node _ children => [] :: positionsFrom 0 children

/-- The positions in trees that are numbered from a number on. -/
def positionsFrom (first : Nat) : List Tree → List (List Nat)
  | [] => []
  | t :: rest => (positions t).map (first :: ·) ++ positionsFrom (first + 1) rest

end

/-- A position in numbered trees begins with a number that is not below the first. -/
theorem exists_of_mem_positionsFrom {first : Nat} {trees : List Tree} {p : List Nat}
    (h : p ∈ positionsFrom first trees) : ∃ i q, p = i :: q ∧ first ≤ i := by
  induction trees generalizing first with
  | nil => simp [positionsFrom] at h
  | cons t rest ih =>
    rw [positionsFrom, List.mem_append] at h
    rcases h with h | h
    · obtain ⟨q, -, rfl⟩ := List.mem_map.mp h
      exact ⟨first, q, rfl, Nat.le_refl first⟩
    · obtain ⟨i, q, rfl, hi⟩ := ih h
      exact ⟨i, q, rfl, by omega⟩

/-- A position inside one of several trees is reached through the number of that tree. -/
theorem mem_positionsFrom (first : Nat) {i : Nat} {trees : List Tree} {t : Tree} {p : List Nat}
    (ht : trees[i]? = some t) (hp : p ∈ t.positions) :
    (first + i) :: p ∈ positionsFrom first trees := by
  induction trees generalizing first i with
  | nil => cases ht
  | cons u rest ih =>
    rw [positionsFrom, List.mem_append]
    cases i with
    | zero =>
      obtain rfl : u = t := by simpa using ht
      exact .inl (List.mem_map_of_mem hp)
    | succ i =>
      have hrest := ih (first + 1) (by simpa using ht)
      have hnumber : first + (i + 1) = first + 1 + i := by omega
      rw [hnumber]
      exact .inr hrest

mutual

/-- The positions of a tree are in lexicographic order. -/
theorem pairwise_positions : (t : Tree) → t.positions.Pairwise (· < ·)
  | .node content children => by
    rw [positions, List.pairwise_cons]
    refine ⟨fun p hp => ?_, pairwise_positionsFrom 0 children⟩
    obtain ⟨i, q, rfl, -⟩ := exists_of_mem_positionsFrom hp
    exact List.nil_lt_cons i q

/-- The positions in several trees come in ascending order. -/
theorem pairwise_positionsFrom : (first : Nat) → (trees : List Tree) →
    (positionsFrom first trees).Pairwise (· < ·)
  | _, [] => .nil
  | first, t :: rest => by
    rw [positionsFrom, List.pairwise_append]
    refine ⟨?_, pairwise_positionsFrom (first + 1) rest, fun p hp q hq => ?_⟩
    · have hown := pairwise_positions t
      exact hown.map (first :: ·) fun _ _ h => List.cons_lt_cons_iff.mpr (.inr ⟨rfl, h⟩)
    · obtain ⟨p, -, rfl⟩ := List.mem_map.mp hp
      obtain ⟨i, q, rfl, hi⟩ := exists_of_mem_positionsFrom hq
      have hlt : first < i := by omega
      exact List.cons_lt_cons_iff.mpr (.inl hlt)

end

end Tree

namespace Document

variable {doc : Document}

mutual

/-- The positions of the tree that stands at a node lead to what the walk from the node lists. -/
theorem map_positions (ht : doc.Treelike) {h : Handle} :
    (t : Tree) → doc.Shows h t →
      t.positions.map (doc.atPath h) = (doc.descendants h).map some
  | .node content children, hshows => by
    have hbelow : (Tree.positionsFrom 0 children).map (doc.atPath h) =
        ((doc.children h).flatMap doc.descendants).map some :=
      map_positionsFrom ht (List.nil_append _).symm children hshows.2
    rw [descendants_eq ht (shows_lt_size hshows), Tree.positions, List.map_cons, List.map_cons,
      hbelow]
    rfl

/-- The same for trees that stand at the children of a node from a position on. -/
theorem map_positionsFrom (ht : doc.Treelike) {h : Handle} {before nodes : List Handle}
    (hl : doc.children h = before ++ nodes) :
    (trees : List Tree) → doc.ShowsAll nodes trees →
      (Tree.positionsFrom before.length trees).map (doc.atPath h) =
        (nodes.flatMap doc.descendants).map some
  | [], hall => by
    cases nodes with
    | nil => rfl
    | cons x rest => exact hall.elim
  | t :: trees, hall => by
    cases nodes with
    | nil => exact hall.elim
    | cons x rest =>
      have hfirst := map_positions ht t hall.1
      have hregroup : doc.children h = (before ++ [x]) ++ rest := by simp [hl]
      have hlater := map_positionsFrom ht hregroup trees hall.2
      rw [List.length_append, List.length_singleton] at hlater
      rw [Tree.positionsFrom, List.map_append, List.map_map, atPath_comp_cons hl, hfirst, hlater,
        List.flatMap_cons, List.map_append]

end

/-- A position that leads to a node is one of the tree. -/
theorem Shows.mem_positions {h x : Handle} {t : Tree} (hs : doc.Shows h t) {p : List Nat}
    (hp : doc.atPath h p = some x) : p ∈ t.positions := by
  induction p generalizing h t with
  | nil =>
    cases t with
    | node content children => simp [Tree.positions]
  | cons i p ih =>
    cases t with
    | node content children =>
      rw [Document.atPath, Option.bind_eq_some_iff] at hp
      obtain ⟨child, hchild, hp⟩ := hp
      obtain ⟨t, ht, hshows⟩ := hs.2.getElem? hchild
      have hmem := Tree.mem_positionsFrom 0 ht (ih hshows hp)
      rw [Nat.zero_add] at hmem
      rw [Tree.positions]
      exact List.mem_cons_of_mem _ hmem

/-- A node has one position only below another one. -/
theorem atPath_injective (ht : doc.Treelike) {top x : Handle} {p q : List Nat}
    (hp : doc.atPath top p = some x) (hq : doc.atPath top q = some x) : p = q := by
  by_cases hs : top < doc.size
  · obtain ⟨t, htree⟩ := tree?_isSome ht hs
    have hshows := (shows_iff ht top t).mpr htree
    have hnodup : (t.positions.map (doc.atPath top)).Nodup := by
      rw [map_positions ht t hshows]
      exact (nodup_descendants ht hs).map (Option.some_injective _)
    exact List.inj_on_of_nodup_map hnodup (hshows.mem_positions hp) (hshows.mem_positions hq)
      (hp.trans hq.symm)
  · have hchildren : doc.children top = [] := children_of_size_le (Nat.le_of_not_lt hs)
    have hempty : ∀ path, doc.atPath top path = some x → path = [] := by
      intro path hpath
      cases path with
      | nil => rfl
      | cons i path => simp [atPath, hchildren] at hpath
    rw [hempty p hp, hempty q hq]

/-- Looking down from `top`, the first node comes before the second one in document order: a
position of the first is lexicographically smaller than one of the second. -/
def Precedes (doc : Document) (top x y : Handle) : Prop :=
  ∃ p q, doc.atPath top p = some x ∧ doc.atPath top q = some y ∧ p < q

/-- Of two nodes only one comes before the other. -/
theorem Precedes.asymm (ht : doc.Treelike) {top x y : Handle} (h : doc.Precedes top x y) :
    ¬ doc.Precedes top y x := by
  rintro ⟨q', p', hy', hx', hlt'⟩
  obtain ⟨p, q, hx, hy, hlt⟩ := h
  rw [atPath_injective ht hx' hx, atPath_injective ht hy' hy] at hlt'
  exact absurd (List.lt_trans hlt hlt') (List.lt_irrefl p)

/-- The walk downwards lists nodes in document order. -/
theorem pairwise_precedes (ht : doc.Treelike) {top : Handle} (hs : top < doc.size) :
    (doc.descendants top).Pairwise (doc.Precedes top) := by
  obtain ⟨t, htree⟩ := tree?_isSome ht hs
  have hmap := map_positions ht t ((shows_iff ht top t).mpr htree)
  have hsorted : ((doc.descendants top).map some).Pairwise fun x y =>
      ∃ p q, doc.atPath top p = x ∧ doc.atPath top q = y ∧ p < q := by
    rw [← hmap]
    exact t.pairwise_positions.map _ fun p q hlt => ⟨p, q, rfl, rfl, hlt⟩
  rw [List.pairwise_map] at hsorted
  exact hsorted

end Document

end PageHost
