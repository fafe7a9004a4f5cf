import PageHost.Proofs.Document.Positions
import PageHost.Proofs.Page.Insertions
/-!
# The walk as a traversal

The walk downwards keeps what is left to do on one stack, siblings and descendants together. What
it lists is what the recursive traversal lists: a node, and after it the traversals of its
children in their order. The links of a document leave that recursion one solution only, and the
walk comes to it within a bound that does not depend on where it starts. Since the walk follows
document order, the first node that it finds is the first one in document order.
-/

namespace PageHost.Document

variable {doc : Document} {top m : Handle}

/-! ## The recursion -/

/-- A function that traverses the document recursively: nothing for a missing node, otherwise the
node and then the traversals of its children, one after the other. -/
def IsTraversal (doc : Document) (f : Handle → List Handle) : Prop :=
  ∀ n, f n = if doc.contains n then n :: (doc.children n).flatMap f else []

/-- A node that does not exist has no descendants. -/
theorem descendants_of_size_le (hs : doc.size ≤ top) : doc.descendants top = [] := by
  have hmissing : doc.node? top = none := (node?_eq_none_iff doc top).mpr hs
  have hwalk : doc.visit (doc.size + 1) [top] = some [] := by
    rw [visit, hmissing]
    cases doc.size <;> rfl
  rw [descendants, hwalk, Option.getD_some]

/-- The walk with a stack satisfies the equations of the recursive traversal. -/
theorem isTraversal_descendants (ht : doc.Treelike) : doc.IsTraversal doc.descendants := by
  intro n
  by_cases hs : n < doc.size
  · rw [if_pos ((contains_iff doc n).mpr hs), descendants_eq ht hs]
  · rw [if_neg (mt (contains_iff doc n).mp hs), descendants_of_size_le (Nat.le_of_not_lt hs)]

mutual

/-- Traversals agree at a node at which a tree stands. -/
theorem IsTraversal.eq_of_shows {f g : Handle → List Handle} (hf : doc.IsTraversal f)
    (hg : doc.IsTraversal g) {h : Handle} : (t : Tree) → doc.Shows h t → f h = g h
  | .node _ children, hshows => by
    have hbelow := hf.flatMap_eq_of_showsAll hg children hshows.2
    rw [hf h, hg h, hbelow]

/-- Two traversals agree on nodes that show trees. -/
theorem IsTraversal.flatMap_eq_of_showsAll {f g : Handle → List Handle} (hf : doc.IsTraversal f)
    (hg : doc.IsTraversal g) {hs : List Handle} :
    (ts : List Tree) → doc.ShowsAll hs ts → hs.flatMap f = hs.flatMap g
  | [], hall => by
    cases hs with
    | nil => rfl
    | cons x rest => exact hall.elim
  | t :: ts, hall => by
    cases hs with
    | nil => exact hall.elim
    | cons x rest =>
      have hfirst := hf.eq_of_shows hg t hall.1
      have hlater := hf.flatMap_eq_of_showsAll hg ts hall.2
      rw [List.flatMap_cons, List.flatMap_cons, hfirst, hlater]

end

/-- The walk downwards is the one recursive traversal. -/
theorem isTraversal_iff (ht : doc.Treelike) (f : Handle → List Handle) :
    doc.IsTraversal f ↔ f = doc.descendants := by
  constructor
  · intro hf
    funext n
    by_cases hs : n < doc.size
    · obtain ⟨t, htree⟩ := tree?_isSome ht hs
      exact hf.eq_of_shows (isTraversal_descendants ht) t ((shows_iff ht n t).mpr htree)
    · have hmissing := mt (contains_iff doc n).mp hs
      rw [hf n, if_neg hmissing, descendants_of_size_le (Nat.le_of_not_lt hs)]
  · rintro rfl
    exact isTraversal_descendants ht

/-! ## The bound -/

/-- From a single node the walk ends once it may visit more nodes than there are. -/
theorem visit_of_size_lt (ht : doc.Treelike) {bound : Nat} (hb : doc.size < bound)
    (n : Handle) : doc.visit bound [n] = some (doc.descendants n) := by
  by_cases hs : n < doc.size
  · exact visit_of_le hb (visit_descendants ht hs)
  · obtain ⟨bound, rfl⟩ := Nat.exists_eq_add_of_lt hb
    have hmissing := (node?_eq_none_iff doc n).mpr (Nat.le_of_not_lt hs)
    rw [visit, hmissing, descendants_of_size_le (Nat.le_of_not_lt hs)]
    exact visit_of_le (Nat.zero_le _) rfl

/-! ## Positions and first matches -/

/-- Whatever the walk lists has one position. -/
theorem existsUnique_position (ht : doc.Treelike) (hm : m ∈ doc.descendants top) :
    ∃! p, doc.atPath top p = some m := by
  have hs : top < doc.size := by
    by_contra hle
    rw [descendants_of_size_le (Nat.le_of_not_lt hle)] at hm
    cases hm
  obtain ⟨p, hp⟩ := exists_atPath_of_below ((mem_descendants_iff ht hs m).mp hm)
  exact ⟨p, hp, fun q hq => atPath_injective ht hq hp⟩

/-- The first node with a property: all others at or below `top` that have it come later. -/
def IsFirst (doc : Document) (top : Handle) (P : Handle → Prop) (m : Handle) : Prop :=
  m ∈ doc.descendants top ∧ P m ∧
    ∀ other ∈ doc.descendants top, P other → other ≠ m → doc.Precedes top m other

/-- The first node that the walk finds is the first one in document order. Of two nodes that come
first neither can come later. -/
theorem find?_descendants_iff (ht : doc.Treelike) (hs : top < doc.size) (p : Handle → Bool) :
    (doc.descendants top).find? p = some m ↔ doc.IsFirst top (fun h => p h = true) m := by
  have hfirst : ∀ x, (doc.descendants top).find? p = some x →
      doc.IsFirst top (fun h => p h = true) x := by
    intro x hx
    obtain ⟨hp, before, later, hsplit, hbefore⟩ := List.find?_eq_some_iff_append.mp hx
    have hsorted := pairwise_precedes ht hs
    rw [hsplit, List.pairwise_append, List.pairwise_cons] at hsorted
    refine ⟨List.mem_of_find?_eq_some hx, hp, fun other hm ho hne => ?_⟩
    rw [hsplit, List.mem_append, List.mem_cons] at hm
    rcases hm with hm | rfl | hm
    · have hno := hbefore other hm
      rw [ho] at hno
      cases hno
    · exact absurd rfl hne
    · exact hsorted.2.1.1 other hm
  refine ⟨hfirst m, fun hm => ?_⟩
  cases hx : (doc.descendants top).find? p with
  | none => exact absurd hm.2.1 (List.find?_eq_none.mp hx m hm.1)
  | some x =>
    obtain ⟨hxm, hpx, hxfirst⟩ := hfirst x hx
    by_contra hne
    have hxne : m ≠ x := fun he => hne (congrArg some he.symm)
    exact Precedes.asymm ht (hxfirst m hm.1 hm.2.1 hxne) (hm.2.2 x hxm hpx (Ne.symm hxne))

/-- The element found for an id is the first in document order that carries it. -/
theorem elementById_iff (ht : doc.Treelike) (hs : root < doc.size) (id : String) :
    doc.elementById id = some m ↔
      doc.IsFirst root (fun h => doc.attribute? h "id" = some id) m := by
  rw [elementById, find?_descendants_iff ht hs]
  simp only [beq_iff_eq]

/-- No element is found exactly when none carries the id. -/
theorem elementById_eq_none_iff (doc : Document) (id : String) :
    doc.elementById id = none ↔ ∀ m ∈ doc.descendants root, doc.attribute? m "id" ≠ some id := by
  simp [elementById]

/-- No operation and no batch takes the root away. -/
theorem Reachable.root_lt_size (hr : doc.Reachable) : root < doc.size := by
  induction hr with
  | blank => decide
  | run operation hr ih => exact Nat.lt_of_lt_of_le ih (size_le_run hr.treelike operation)
  | page batches hr hp => exact (Page.supplied_of_passes hr hp).wellFormed.rooted

/-- The walk with its one stack is the recursive traversal in document order. It ends by itself:
a bound above the number of nodes does not cut it off. The recursion has the walk for its one
solution. Each node is listed once, exactly one path of child positions leads to it, and the nodes
come in the lexicographic order of these paths. So the element that is found by its id is the first
one in document order, and one is found if there is any. -/
theorem walk_traverses_in_document_order (hr : doc.Reachable) :
    (∀ n bound, doc.size < bound → doc.visit bound [n] = some (doc.descendants n)) ∧
    (∀ f, doc.IsTraversal f ↔ f = doc.descendants) ∧
    (∀ n, (doc.descendants n).Nodup ∧
      (∀ m ∈ doc.descendants n, ∃! p, doc.atPath n p = some m) ∧
      (doc.descendants n).Pairwise (doc.Precedes n)) ∧
    ∀ id, (∀ m, doc.elementById id = some m ↔
        doc.IsFirst root (fun h => doc.attribute? h "id" = some id) m) ∧
      (doc.elementById id = none ↔
        ∀ m ∈ doc.descendants root, doc.attribute? m "id" ≠ some id) := by
  have ht := hr.treelike
  refine ⟨fun n bound hb => visit_of_size_lt ht hb n, isTraversal_iff ht, fun n => ?_, fun id =>
    ⟨fun m => elementById_iff ht hr.root_lt_size id, elementById_eq_none_iff doc id⟩⟩
  by_cases hs : n < doc.size
  · exact ⟨nodup_descendants ht hs, fun m => existsUnique_position ht, pairwise_precedes ht hs⟩
  · rw [descendants_of_size_le (Nat.le_of_not_lt hs)]
    exact ⟨List.nodup_nil, nofun, List.Pairwise.nil⟩

/-- A division with two paragraphs, the younger one first and with a span in it. The span and the
older paragraph share an id. The document has no node 9. -/
theorem walk_traverses_in_document_order_shared_id :
    let doc := afterOperations [.createElement "div" none, .createElement "p" none,
      .setAttribute 5 "id" none "x", .createElement "p" none, .createElement "span" none,
      .setAttribute 7 "id" none "x", .appendChildren 6 [7], .appendChildren 4 [6, 5],
      .appendChildren body [4]]
    doc.Reachable ∧ doc.visit 20 [4] = some [4, 6, 7, 5] ∧ doc.visit 20 [9] = some [] ∧
      (∃! p, doc.atPath 4 p = some 7) ∧
      doc.IsFirst root (fun h => doc.attribute? h "id" = some "x") 7 := by
  intro doc
  have hr : doc.Reachable := reachable_afterOperations _
  obtain ⟨hends, -, hlisted, hfound⟩ := walk_traverses_in_document_order hr
  have hbelow : doc.descendants 4 = [4, 6, 7, 5] := by decide +kernel
  have hmissing : doc.descendants 9 = [] := by decide +kernel
  have hwalk := hends 4 20 (by decide +kernel)
  have hnone := hends 9 20 (by decide +kernel)
  rw [hbelow] at hwalk
  rw [hmissing] at hnone
  have hspan : 7 ∈ doc.descendants 4 := by
    rw [hbelow]
    decide
  exact ⟨hr, hwalk, hnone, (hlisted 4).2.1 7 hspan, ((hfound "x").1 7).mp (by decide +kernel)⟩

end PageHost.Document
