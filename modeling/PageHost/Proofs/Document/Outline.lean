import Mathlib.Data.Multiset.Basic
import PageHost.Proofs.Document.Clone
/-!
# Outlines

The outline of a tree forgets the order in which attributes are written and nothing else.
`Outlines` says node by node that an outline is the one of what stands at a node of the
store, without a bound on the depth. Two nodes are structurally equal exactly when they
have the same outline, so structural equality is an equivalence of the nodes that exist.
-/

namespace PageHost

/-- What a node is, without the order of its attributes. -/
inductive Label where
  | document
  | fragment
  | element (name : ElementName) (attributes : Multiset Attribute)
  | text (data : String)
  | comment (data : String)
  | placeholder

/-- Labels arranged as a finite ordered tree. -/
inductive Outline where
  | node (label : Label) (children : List Outline)

/-- The label of a node with this content. -/
def Content.label : Content → Label
  | .document => .document
  | .fragment => .fragment
  | .element name attributes => .element name attributes
  | .text data => .text data
  | .comment data => .comment data
  | .placeholder => .placeholder

namespace Attribute

instance instTransOrd : Std.TransOrd Attribute :=
  inferInstanceAs (Std.TransCmp (compareLex (compareOn name)
    (compareLex (compareOn space) (compareOn value))))

/-- Attributes of which neither comes before the other are the same. -/
theorem eq_of_compare {a b : Attribute} (h : compare a b = .eq) : a = b := by
  obtain ⟨hname, h⟩ := Ordering.then_eq_eq.mp h
  obtain ⟨hspace, hvalue⟩ := Ordering.then_eq_eq.mp h
  cases a
  cases b
  congr
  · exact Std.LawfulEqOrd.eq_of_compare hname
  · exact Std.LawfulEqOrd.eq_of_compare hspace
  · exact Std.LawfulEqOrd.eq_of_compare hvalue

/-- Of two attributes one comes first, or both are the same. -/
theorem isLE_total (a b : Attribute) : ((compare a b).isLE || (compare b a).isLE) = true := by
  have hswap : compare b a = (compare a b).swap := Std.OrientedCmp.eq_swap
  rw [hswap]
  cases compare a b <;> rfl

end Attribute

namespace Tree

mutual

/-- The outline of a tree. -/
def outline : Tree → Outline
  | .node content children => .node content.label (outlineAll children)

/-- The outlines of several trees. -/
def outlineAll : List Tree → List Outline
  | [] => []
  | t :: rest => outline t :: outlineAll rest

end

/-- Sorting forgets the order in which attributes are written and nothing else. -/
theorem sortAttributes_eq_iff {attributes others : List Attribute} :
    sortAttributes attributes = sortAttributes others ↔ attributes.Perm others := by
  have hperm : ∀ l, (sortAttributes l).Perm l := fun l => List.mergeSort_perm l _
  have hsorted : ∀ l, (sortAttributes l).Pairwise fun a b => (compare a b).isLE = true :=
    List.pairwise_mergeSort (fun _ _ _ => Std.TransCmp.isLE_trans) Attribute.isLE_total
  constructor
  · intro heq
    exact (hperm attributes).symm.trans (heq ▸ hperm others)
  · intro h
    refine List.Perm.eq_of_pairwise (fun a b _ _ hab hba => ?_) (hsorted attributes)
      (hsorted others) (((hperm attributes).trans h).trans (hperm others).symm)
    exact Attribute.eq_of_compare (Std.OrientedCmp.isLE_antisymm hab hba)

/-- Contents agree when their labels are the same. -/
theorem sameContent_iff (a b : Content) : sameContent a b = true ↔ a.label = b.label := by
  cases a with
  | element name attributes =>
    cases b with
    | element name' attributes' =>
      simp only [sameContent, Content.label, Bool.and_eq_true, beq_iff_eq, sortAttributes_eq_iff,
        Label.element.injEq, Multiset.coe_eq_coe]
    | _ => simp [sameContent, Content.label]
  | _ => cases b <;> simp [sameContent, Content.label]

mutual

/-- Trees agree exactly when they have the same outline. -/
theorem agrees_iff : (s t : Tree) → (s.agrees t = true ↔ s.outline = t.outline)
  | .node a children, .node b children' => by
    rw [agrees, outline, outline, Bool.and_eq_true, sameContent_iff, agreesAll_iff,
      Outline.node.injEq]

/-- Lists of trees agree when their outlines are the same, one by one. -/
theorem agreesAll_iff : (ss ts : List Tree) →
    (agreesAll ss ts = true ↔ outlineAll ss = outlineAll ts)
  | [], [] => by simp [agreesAll, outlineAll]
  | [], _ :: _ => by simp [agreesAll, outlineAll]
  | _ :: _, [] => by simp [agreesAll, outlineAll]
  | s :: ss, t :: ts => by
    rw [agreesAll, outlineAll, outlineAll, Bool.and_eq_true, agrees_iff, agreesAll_iff,
      List.cons.injEq]

end

end Tree

namespace Document

mutual

/-- What stands at the node has this outline. -/
def Outlines (doc : Document) (h : Handle) : Outline → Prop
  | .node label children =>
    (doc.content? h).map Content.label = some label ∧
      OutlinesAll doc (doc.children h) children

/-- What stands at the nodes has these outlines, one by one. -/
def OutlinesAll (doc : Document) : List Handle → List Outline → Prop
  | [], [] => True
  | h :: hs, o :: os => Outlines doc h o ∧ OutlinesAll doc hs os
  | [], _ :: _ => False
  | _ :: _, [] => False

end

variable {doc : Document} {h : Handle} {o o' : Outline}

mutual

/-- In a treelike document the outline of a node is that of the tree that is read off it. -/
theorem outlines_iff (ht : doc.Treelike) (h : Handle) :
    (o : Outline) → (doc.Outlines h o ↔ (doc.tree? h).map Tree.outline = some o)
  | .node label children => by
    have hbelow := outlinesAll_iff ht (doc.children h) (fun c hc => ht.child_lt_size hc) children
    rw [Outlines, hbelow, tree?_eq ht]
    cases doc.content? h with
    | none => simp
    | some content =>
      simp only [Option.map_some, Option.some.injEq, Tree.outline, Outline.node.injEq]

/-- The outlines of several nodes are those of the trees that they show. -/
theorem outlinesAll_iff (ht : doc.Treelike) (hs : List Handle) (hex : ∀ h ∈ hs, h < doc.size) :
    (os : List Outline) →
      (doc.OutlinesAll hs os ↔ Tree.outlineAll (hs.filterMap doc.tree?) = os)
  | [] => by
    cases hs with
    | nil => exact ⟨fun _ => rfl, fun _ => trivial⟩
    | cons x rest =>
      obtain ⟨t, hx⟩ := tree?_isSome ht (hex x List.mem_cons_self)
      rw [List.filterMap_cons_some hx]
      exact ⟨fun h => h.elim, nofun⟩
  | o :: os => by
    cases hs with
    | nil => exact ⟨fun h => h.elim, nofun⟩
    | cons x rest =>
      obtain ⟨t, hx⟩ := tree?_isSome ht (hex x List.mem_cons_self)
      have hrest := outlinesAll_iff ht rest (fun y hy => hex y (List.mem_cons_of_mem x hy)) os
      rw [OutlinesAll, outlines_iff ht x o, hrest, List.filterMap_cons_some hx, hx,
        Tree.outlineAll, List.cons.injEq, Option.map_some, Option.some.injEq]

end

/-- A node has one outline only. -/
theorem Outlines.unique (ht : doc.Treelike) (ho : doc.Outlines h o) (ho' : doc.Outlines h o') :
    o = o' := by
  rw [outlines_iff ht] at ho ho'
  rw [ho] at ho'
  exact Option.some.inj ho'

/-- Exactly the nodes that exist have an outline. -/
theorem exists_outlines_iff (ht : doc.Treelike) (h : Handle) :
    (∃ o, doc.Outlines h o) ↔ doc.contains h = true := by
  rw [contains_iff]
  constructor
  · rintro ⟨⟨label, children⟩, hlabel, -⟩
    obtain ⟨content, hc, -⟩ := Option.map_eq_some_iff.mp hlabel
    exact (lt_size_iff doc h).mpr ⟨content, hc⟩
  · intro hs
    obtain ⟨t, htree⟩ := tree?_isSome ht hs
    exact ⟨t.outline, (outlines_iff ht h _).mpr (by rw [htree]; rfl)⟩

/-- Nodes are structurally equal exactly when they have the same outline. -/
theorem structurallyEqual_iff (ht : doc.Treelike) (a b : Handle) :
    doc.structurallyEqual a b = true ↔ ∃ o, doc.Outlines a o ∧ doc.Outlines b o := by
  simp only [outlines_iff ht]
  unfold structurallyEqual
  cases doc.tree? a with
  | none => simp
  | some left =>
    cases doc.tree? b with
    | none => simp
    | some right =>
      simp only [Option.map_some, Option.some.injEq, Tree.agrees_iff]
      exact ⟨fun he => ⟨_, he, rfl⟩, fun ⟨_, hl, hr⟩ => hl.trans hr.symm⟩

/-- Structural equality is an equivalence of the nodes that exist. -/
theorem equivalence_structurallyEqual (ht : doc.Treelike) :
    Equivalence fun a b : { h // doc.contains h = true } =>
      doc.structurallyEqual a b = true := by
  simp only [structurallyEqual_iff ht]
  constructor
  case refl =>
    rintro ⟨a, ha⟩
    obtain ⟨o, ho⟩ := (exists_outlines_iff ht a).mpr ha
    exact ⟨o, ho, ho⟩
  case symm =>
    rintro a b ⟨o, ha, hb⟩
    exact ⟨o, hb, ha⟩
  case trans =>
    rintro a b c ⟨o, ha, hb⟩ ⟨o', hb', hc⟩
    obtain rfl := hb.unique ht hb'
    exact ⟨o, ha, hc⟩

end Document

end PageHost
