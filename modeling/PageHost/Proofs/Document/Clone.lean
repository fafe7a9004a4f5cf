import PageHost.Proofs.Document.Isolation
import PageHost.Document.Markup
/-!
# Clones

A clone is read off as the same tree as its original, so everything that is about trees
cannot tell them apart. Its nodes are all fresh, and no node that was there has changed.
-/

namespace PageHost

namespace Tree

/-- A content agrees with itself. -/
theorem sameContent_self (content : Content) : sameContent content content = true := by
  cases content <;> simp [sameContent]

mutual

/-- A tree agrees with itself. -/
theorem agrees_self : (t : Tree) → t.agrees t = true
  | .node content children => by
    rw [agrees, sameContent_self, agreesAll_self children]
    rfl

/-- Trees agree with themselves, one by one. -/
theorem agreesAll_self : (trees : List Tree) → agreesAll trees trees = true
  | [] => rfl
  | t :: rest => by
    rw [agreesAll, agrees_self t, agreesAll_self rest]
    rfl

end

end Tree

namespace Document

/-- The same child positions lead on from both nodes, and they lead to nodes of equal content with
equally many children. -/
def Corresponds (a : Document) (h : Handle) (b : Document) (h' : Handle) : Prop :=
  ∀ path, Option.Rel
    (fun n n' => (∃ content, a.content? n = some content ∧ b.content? n' = some content) ∧
      (a.children n).length = (b.children n').length)
    (a.atPath h path) (b.atPath h' path)

/-- Nodes at which the same tree stands correspond. -/
theorem Shows.corresponds {a b : Document} {h h' : Handle} {t : Tree} (ha : a.Shows h t)
    (hb : b.Shows h' t) : Corresponds a h b h' := by
  intro path
  cases hp : a.atPath h path with
  | none =>
    cases hp' : b.atPath h' path with
    | none => exact .none
    | some n' =>
      obtain ⟨n, -, hn, -⟩ := hb.atPath ha hp'
      rw [hp] at hn
      cases hn
  | some n =>
    obtain ⟨n', s, hp', hn, hn'⟩ := ha.atPath hb hp
    rw [hp']
    cases s with
    | node content children =>
      exact .some ⟨⟨content, hn.1, hn'.1⟩, hn.2.length_eq.trans hn'.2.length_eq.symm⟩

/-- The store of `b` keeps of a node what the store of `a` keeps of another one, and the tables
beside it say the same: whether the node is a fragment, whether it is a placeholder, and which text
is noted for it. -/
def Likened (a : Document) (h : Handle) (b : Document) (h' : Handle) : Prop :=
  b.nodes.data? h' = a.nodes.data? h ∧ b.nodes.markers.SameAt h' a.nodes.markers h

/-- `after` is `doc` with a clone of one of its nodes. -/
structure Clone (doc : Document) (original copy : Handle) (after : Document) : Prop where
  parentless : after.parent? copy = none
  /-- Nothing at or below the clone was there before. -/
  fresh : ∀ x ∈ after.descendants copy, doc.contains x = false
  equal : after.structurallyEqual original copy = true
  markup : after.outerHtml copy = doc.outerHtml original ∧
    after.outerHtml original = doc.outerHtml original
  positions : Corresponds doc original after copy
  /-- The tables were carried over to each position, down to the last one. -/
  carried : ∀ path n c, doc.atPath original path = some n → after.atPath copy path = some c →
    Likened doc n after c
  /-- They are what the second walk makes of them, which takes the children of both in pairs. -/
  walked : after.nodes.markers =
    carryBelow after.children doc.size doc.nodes.markers original copy
  frame : ∀ x, doc.contains x = true → after.node? x = doc.node? x
  /-- Nothing was written into the old part of the store or of the tables. -/
  kept : ∀ x, doc.contains x = true → after.nodes.records[x]? = doc.nodes.records[x]? ∧
    after.nodes.markers.SameAt x doc.nodes.markers x

variable {doc after : Document} {original copy : Handle}

/-- A clone has no node in common with what was there before. -/
theorem Clone.disjoint (h : Clone doc original copy after) (ht : doc.Treelike) {earlier : Handle}
    (he : doc.contains earlier = true) :
    (after.descendants earlier).Disjoint (after.descendants copy) := by
  intro x hx hcopy
  have hframe : ∀ y, y < doc.size → after.node? y = doc.node? y :=
    fun y hy => h.frame y ((contains_iff doc y).mpr hy)
  have hold := lt_size_of_below ht hframe ((contains_iff doc earlier).mp he)
    (below_of_mem_descendants hx)
  have hfresh := h.fresh x hcopy
  rw [(contains_iff doc x).mpr hold] at hfresh
  cases hfresh

/-- Fresh nodes do not change the tree at an old node. -/
theorem tree?_eq_of_frame {a b : Document} (ha : a.Treelike) (hb : b.Treelike)
    (hsame : ∀ x, x < a.size → b.node? x = a.node? x) {h : Handle} (hs : h < a.size) :
    b.tree? h = a.tree? h := by
  obtain ⟨t, ht⟩ := tree?_isSome ha hs
  rw [ht]
  exact (shows_iff hb h t).mp (((shows_iff ha h t).mpr ht).of_frame hsame)

/-- Fresh nodes do not change where a path leads from an old node. -/
theorem atPath_of_frame {a b : Document} (ha : a.Treelike)
    (hsame : ∀ x, x < a.size → b.node? x = a.node? x) {h n : Handle} {path : List Nat}
    (hs : h < a.size) (hp : a.atPath h path = some n) : b.atPath h path = some n ∧ n < a.size := by
  induction path generalizing h with
  | nil =>
    cases hp
    exact ⟨rfl, hs⟩
  | cons i rest ih =>
    rw [atPath] at hp ⊢
    obtain ⟨child, hi, hrest⟩ := Option.bind_eq_some_iff.mp hp
    rw [children_of_node?_eq (hsame h hs), hi, Option.bind_some]
    exact ih (ha.child_lt_size (List.mem_of_getElem? hi)) hrest

/-- The same child positions lead to nodes that the two walks of a copy have paired. -/
theorem likened_of_atPath (ht : doc.Treelike) (hc : deepClone original doc = .ok copy after)
    {path : List Nat} {n c : Handle} (hn : doc.atPath original path = some n)
    (hn' : after.atPath copy path = some c) : Likened doc n after c := by
  obtain ⟨t, htree, -, -, -, hcarried, -⟩ := deepClone_inv ht hc
  have hshows := (shows_iff ht original t).mpr htree
  have hframe := (planted_deepClone ht hc).frame
  obtain ⟨hpath, hold⟩ := atPath_of_frame ht hframe (shows_lt_size hshows) hn
  obtain ⟨c', t', hc', hs, hs'⟩ := hshows.atPath (shows_deepClone ht hc htree) hn
  rw [hn'] at hc'
  cases hc'
  refine ⟨?_, hcarried n c (paired_of_atPath hpath hn')⟩
  rw [hs'.data?_eq (hs.of_frame hframe), data?_of_node?_eq (hframe n hold)]

/-- A node that exists can be cloned, and the same tree stands at the clone. -/
theorem exists_clone (ht : doc.Treelike) (hs : original < doc.size) :
    ∃ copy after t, deepClone original doc = .ok copy after ∧ Clone doc original copy after ∧
      after.Treelike ∧ doc.tree? original = some t ∧ after.Shows copy t := by
  obtain ⟨t, htree⟩ := tree?_isSome ht hs
  obtain ⟨copy, after, hclone⟩ := exists_deepClone ht hs
  have hplanted := planted_deepClone ht hclone
  have hsprouts := sprouts_deepClone ht hclone
  have hcopy := shows_deepClone ht hclone htree
  have hold := ((shows_iff ht original t).mpr htree)
  have hread := (shows_iff hplanted.treelike _ t).mp hcopy
  have hread' := (tree?_eq_of_frame ht hplanted.treelike hplanted.frame hs).trans htree
  refine ⟨_, _, t, hclone, ?_, hplanted.treelike, htree, hcopy⟩
  constructor
  case parentless => exact (hplanted.fresh _ (List.mem_singleton_self _)).2.2
  case fresh =>
    intro x hx
    rw [Bool.eq_false_iff, ne_eq, contains_iff, Nat.not_lt]
    exact hsprouts.size_le_of_below (List.mem_singleton_self copy) (below_of_mem_descendants hx)
  case equal =>
    unfold structurallyEqual
    rw [hread, hread']
    exact t.agrees_self
  case markup =>
    unfold outerHtml
    rw [hread, hread', htree]
    exact ⟨rfl, rfl⟩
  case positions => exact hold.corresponds hcopy
  case carried => exact fun path n c hn hc => likened_of_atPath ht hclone hn hc
  case walked =>
    obtain ⟨-, -, -, -, -, -, hwalked⟩ := deepClone_inv ht hclone
    exact hwalked
  case frame => exact fun x hx => hplanted.frame x ((contains_iff doc x).mp hx)
  case kept =>
    intro x hx
    obtain ⟨-, -, -, -, hkept, -⟩ := deepClone_inv ht hclone
    have hs := (contains_iff doc x).mp hx
    exact ⟨record?_of_node?_eq (hplanted.frame x hs), hkept x hs⟩

end Document

end PageHost
