import Mathlib.Data.List.Basic
import PageHost.Proofs.Document.Region
/-!
# The tree that stands at a node

`Shows` says node by node that a tree stands at a node of the store. It asks for
no bound on the depth, and a change that leaves the nodes below alone keeps it.
In a treelike document it is what reading the tree finds, whatever the depth that
is read to. Planting a tree makes a node at which the tree stands, so a copy
shows the same tree as its original.
-/

namespace PageHost.Document

mutual

/-- The tree stands at the node. -/
def Shows (doc : Document) (h : Handle) : Tree → Prop
  | .node content children =>
    doc.content? h = some content ∧ ShowsAll doc (doc.children h) children

/-- The trees stand at the nodes, one by one. -/
def ShowsAll (doc : Document) : List Handle → List Tree → Prop
  | [], [] => True
  | h :: hs, t :: ts => Shows doc h t ∧ ShowsAll doc hs ts
  | [], _ :: _ => False
  | _ :: _, [] => False

end

/-- A node that shows a tree exists. -/
theorem shows_lt_size {doc : Document} {h : Handle} {t : Tree} (hs : doc.Shows h t) :
    h < doc.size := by
  cases t with
  | node content children => exact (lt_size_iff doc h).mpr ⟨content, hs.1⟩

theorem content?_of_node?_eq {a b : Document} {x : Handle} (h : b.node? x = a.node? x) :
    b.content? x = a.content? x := by rw [content?, h, content?]

section Congr

variable {a b : Document} (region : Handle → Prop)

mutual

/-- Nodes that lead to each other and stay as they are keep the tree that stands there. -/
theorem Shows.congr (hsame : ∀ x, region x → x < a.size → b.node? x = a.node? x)
    (hdown : ∀ p c, region p → c ∈ a.children p → region c) {h : Handle} (hr : region h) :
    (t : Tree) → a.Shows h t → b.Shows h t
  | .node content children, hs => by
    have hnode : b.node? h = a.node? h := hsame h hr (shows_lt_size hs)
    rw [Shows, content?_of_node?_eq hnode, children_of_node?_eq hnode]
    exact ⟨hs.1, ShowsAll.congr hsame hdown (fun c hc => hdown h c hr hc) children hs.2⟩

/-- Nodes of a region that stays the same show the same trees. -/
theorem ShowsAll.congr (hsame : ∀ x, region x → x < a.size → b.node? x = a.node? x)
    (hdown : ∀ p c, region p → c ∈ a.children p → region c) {hs : List Handle}
    (hr : ∀ h ∈ hs, region h) : (ts : List Tree) → a.ShowsAll hs ts → b.ShowsAll hs ts
  | [], h => by
    cases hs with
    | nil => trivial
    | cons x rest => exact h
  | t :: ts, h => by
    cases hs with
    | nil => exact h
    | cons x rest =>
      refine ⟨Shows.congr hsame hdown (hr x List.mem_cons_self) t h.1, ?_⟩
      exact ShowsAll.congr hsame hdown (fun y hy => hr y (List.mem_cons_of_mem x hy)) ts h.2

end

/-- Fresh nodes do not change the trees that stand already. -/
theorem Shows.of_frame (hsame : ∀ x, x < a.size → b.node? x = a.node? x) {h : Handle} {t : Tree}
    (hs : a.Shows h t) : b.Shows h t :=
  Shows.congr (fun _ => True) (fun x _ hx => hsame x hx) (fun _ _ _ _ => trivial) trivial t hs

end Congr

/-- As many nodes show trees as there are trees. -/
theorem ShowsAll.length_eq {doc : Document} {hs : List Handle} {ts : List Tree}
    (h : doc.ShowsAll hs ts) : hs.length = ts.length := by
  induction hs generalizing ts with
  | nil =>
    cases ts with
    | nil => rfl
    | cons t rest => exact h.elim
  | cons x more ih =>
    cases ts with
    | nil => exact h.elim
    | cons t rest => exact congrArg Nat.succ (ih h.2)

/-- The trees stand at the nodes of the same positions. -/
theorem ShowsAll.getElem? {doc : Document} {hs : List Handle} {ts : List Tree}
    (h : doc.ShowsAll hs ts) {i : Nat} {x : Handle} (hx : hs[i]? = some x) :
    ∃ t, ts[i]? = some t ∧ doc.Shows x t := by
  induction hs generalizing ts i with
  | nil => simp at hx
  | cons y more ih =>
    cases ts with
    | nil => exact h.elim
    | cons t rest =>
      cases i with
      | zero =>
        have hy : y = x := by simpa using hx
        subst hy
        exact ⟨t, rfl, h.1⟩
      | succ i => exact ih h.2 (by simpa using hx)

/-! ## Reading to a depth -/

section Reading

variable {doc : Document}

/-- Reading deeper than the document can go finds nothing more. -/
theorem treeWithin_succ (ht : doc.Treelike) {depth : Nat} {h : Handle}
    (hd : doc.size ≤ (doc.ancestors h).length + depth) :
    doc.treeWithin (depth + 1) h = doc.treeWithin depth h := by
  induction depth generalizing h with
  | zero =>
    have hs : ¬ h < doc.size := by
      intro hs
      have hlt := ht.length_ancestorsWithin_lt doc.size hs
      rw [ancestors] at hd
      omega
    have hnone : doc.node? h = none := (node?_eq_none_iff doc h).mpr (Nat.le_of_not_lt hs)
    rw [treeWithin, treeWithin, hnone]
  | succ depth ih =>
    rw [treeWithin, treeWithin]
    cases hn : doc.node? h with
    | none => rfl
    | some node =>
      have hchildren : doc.children h = node.children := by rw [children, hn]
      have hbelow : ∀ c ∈ node.children,
          doc.treeWithin (depth + 1) c = doc.treeWithin depth c := by
        intro c hc
        rw [← hchildren] at hc
        apply ih
        rw [ht.ancestors_eq (ht.parent_of_mem h c hc), List.length_cons]
        omega
      dsimp only
      rw [List.filterMap_congr hbelow]

/-- As many levels as there are nodes are enough. -/
theorem treeWithin_eq_tree? (ht : doc.Treelike) {depth : Nat} (hd : doc.size ≤ depth)
    (h : Handle) : doc.treeWithin depth h = doc.tree? h := by
  obtain ⟨extra, rfl⟩ := Nat.exists_eq_add_of_le hd
  clear hd
  induction extra with
  | zero => rfl
  | succ extra ih =>
    have hdeep : doc.size ≤ (doc.ancestors h).length + (doc.size + extra) := by omega
    rw [← Nat.add_assoc, treeWithin_succ ht hdeep, ih]

/-- The tree at a node is its content over the trees at its children. -/
theorem tree?_eq (ht : doc.Treelike) (h : Handle) :
    doc.tree? h = (doc.content? h).map fun content =>
      .node content ((doc.children h).filterMap doc.tree?) := by
  rw [← treeWithin_eq_tree? ht (Nat.le_succ doc.size), treeWithin, content?, children_eq]
  cases doc.node? h with
  | none => rfl
  | some node => rfl

/-- In a treelike document every node that exists shows a tree. -/
theorem tree?_isSome (ht : doc.Treelike) {h : Handle} (hs : h < doc.size) :
    ∃ t, doc.tree? h = some t := by
  obtain ⟨content, hc⟩ := (lt_size_iff doc h).mp hs
  exact ⟨_, by rw [tree?_eq ht, hc]; rfl⟩

mutual

/-- In a treelike document the tree that is read off a node is the one that stands there. -/
theorem shows_iff (ht : doc.Treelike) (h : Handle) :
    (t : Tree) → (doc.Shows h t ↔ doc.tree? h = some t)
  | .node content children => by
    have hbelow := showsAll_iff ht (doc.children h) (fun c hc => ht.child_lt_size hc) children
    rw [Shows, hbelow, tree?_eq ht, Option.map_eq_some_iff]
    constructor
    · rintro ⟨hc, rfl⟩
      exact ⟨content, hc, rfl⟩
    · rintro ⟨own, hc, he⟩
      cases he
      exact ⟨hc, rfl⟩

/-- The trees that several nodes show are those that are read from them. -/
theorem showsAll_iff (ht : doc.Treelike) (hs : List Handle) (hex : ∀ h ∈ hs, h < doc.size) :
    (ts : List Tree) → (doc.ShowsAll hs ts ↔ hs.filterMap doc.tree? = ts)
  | [] => by
    cases hs with
    | nil => exact ⟨fun _ => rfl, fun _ => trivial⟩
    | cons x rest =>
      obtain ⟨t, hx⟩ := tree?_isSome ht (hex x List.mem_cons_self)
      rw [List.filterMap_cons_some hx]
      exact ⟨fun h => h.elim, nofun⟩
  | t :: ts => by
    cases hs with
    | nil => exact ⟨fun h => h.elim, nofun⟩
    | cons x rest =>
      obtain ⟨own, hx⟩ := tree?_isSome ht (hex x List.mem_cons_self)
      have hrest := showsAll_iff ht rest (fun y hy => hex y (List.mem_cons_of_mem x hy)) ts
      rw [ShowsAll, shows_iff ht x t, hrest, List.filterMap_cons_some hx, hx, List.cons.injEq,
        Option.some.injEq]

end

/-- Only nodes that exist have a tree. -/
theorem lt_size_of_tree? (ht : doc.Treelike) {h : Handle} {t : Tree}
    (htree : doc.tree? h = some t) : h < doc.size := shows_lt_size ((shows_iff ht h t).mpr htree)

end Reading

/-! ## Planted trees -/

/-- What planting leaves: the old nodes as they were, and fresh nodes that list fresh nodes. -/
structure Sprouts (a : Document) (tops : List Handle) (b : Document) : Prop where
  size_le : a.size ≤ b.size
  frame : ∀ x, x < a.size → b.node? x = a.node? x
  fresh : ∀ x ∈ tops, a.size ≤ x
  inward : ∀ p, a.size ≤ p → ∀ c ∈ b.children p, a.size ≤ c

mutual

/-- The nodes below the top of a planted tree are fresh. -/
theorem sprouts_plant (doc : Document) (parent : Option Handle) :
    (t : Tree) → Sprouts doc [(doc.plant parent t).1] (doc.plant parent t).2
  | .node content children => by
    have h := sprouts_plantAll (doc.push ⟨content, parent, [], false⟩) doc.size children
    rw [plant]
    generalize (doc.push ⟨content, parent, [], false⟩).plantAll doc.size children = made at h ⊢
    obtain ⟨below, made⟩ := made
    have hsize := h.size_le
    rw [size_push] at hsize
    refine ⟨?_, fun x hx => ?_, fun x hx => ?_, fun p hp c hc => ?_⟩
    · rw [size_update]
      exact Nat.le_of_lt hsize
    · have hne : x ≠ doc.size := Nat.ne_of_lt hx
      have hpushed : x < (doc.push ⟨content, parent, [], false⟩).size := by
        rw [size_push]
        omega
      rw [node?_update_of_ne _ hne, h.frame x hpushed, node?_push, if_neg hne]
    · exact Nat.le_of_eq (List.mem_singleton.mp hx).symm
    · rcases mem_children_mapChildren (f := fun _ => below) hc with ⟨-, hm⟩ | hm
      · have hfresh := h.fresh c hm
        rw [size_push] at hfresh
        omega
      · by_cases hpe : p = doc.size
        · have hpushed : doc.size < (doc.push ⟨content, parent, [], false⟩).size := by
            rw [size_push]
            omega
          rw [hpe, children_of_node?_eq (h.frame _ hpushed), children_push_nil,
            children_of_size_le (Nat.le_refl _)] at hm
          cases hm
        · have hin := h.inward p (by rw [size_push]; omega) c hm
          rw [size_push] at hin
          omega

theorem sprouts_plantAll (doc : Document) (top : Handle) :
    (trees : List Tree) → Sprouts doc (doc.plantAll top trees).1 (doc.plantAll top trees).2
  | [] => by
    refine ⟨Nat.le_refl _, fun _ _ => rfl, nofun, fun p hp c hc => ?_⟩
    rw [show (doc.plantAll top []).2 = doc from rfl, children_of_size_le hp] at hc
    cases hc
  | t :: rest => by
    have h := sprouts_plant doc (some top) t
    have h' := sprouts_plantAll (doc.plant (some top) t).2 top rest
    rw [plantAll]
    have hsize := h.size_le
    have hsize' := h'.size_le
    refine ⟨by dsimp only; omega, fun x hx => ?_, fun x hx => ?_, fun p hp c hc => ?_⟩
    · rw [h'.frame x (by omega), h.frame x hx]
    · rcases List.mem_cons.mp hx with rfl | hx
      · exact h.fresh _ (List.mem_singleton.mpr rfl)
      · have hfresh := h'.fresh x hx
        omega
    · by_cases hlt : p < (doc.plant (some top) t).2.size
      · rw [children_of_node?_eq (h'.frame p hlt)] at hc
        exact h.inward p hp c hc
      · have hin := h'.inward p (Nat.le_of_not_lt hlt) c hc
        omega

end

mutual

/-- A planted tree stands at its top. The list of the top is written last, and the nodes below lead
to nodes below only. -/
theorem shows_plant (doc : Document) (parent : Option Handle) :
    (t : Tree) → (doc.plant parent t).2.Shows (doc.plant parent t).1 t
  | .node content children => by
    have hs := sprouts_plantAll (doc.push ⟨content, parent, [], false⟩) doc.size children
    have hbelow := showsAll_plantAll (doc.push ⟨content, parent, [], false⟩) doc.size children
    rw [plant]
    generalize (doc.push ⟨content, parent, [], false⟩).plantAll doc.size children = made
      at hs hbelow ⊢
    obtain ⟨below, made⟩ := made
    have htop : doc.size < (doc.push ⟨content, parent, [], false⟩).size := by
      rw [size_push]
      omega
    have hmade : doc.size < made.size := Nat.lt_of_lt_of_le htop hs.size_le
    have hcontent : made.content? doc.size = some content := by
      rw [content?_of_node?_eq (hs.frame _ htop), content?_push, if_pos rfl]
    have hlist : (made.mapChildren doc.size fun _ => below).children doc.size = below := by
      rw [children_mapChildren hmade, if_pos rfl]
    refine ⟨(content?_mapChildren made doc.size doc.size fun _ => below).trans hcontent, ?_⟩
    show ShowsAll (made.mapChildren doc.size fun _ => below)
      ((made.mapChildren doc.size fun _ => below).children doc.size) children
    rw [hlist]
    refine ShowsAll.congr (fun x => doc.size < x) (fun x hx _ => ?_) (fun p c hp hc => ?_)
      (fun x hx => ?_) children hbelow
    · exact node?_update_of_ne made (Nat.ne_of_gt hx) _
    · have hin := hs.inward p (by rw [size_push]; omega) c hc
      rw [size_push] at hin
      omega
    · have hfresh := hs.fresh x hx
      rw [size_push] at hfresh
      omega

/-- Planted trees are shown by their tops. -/
theorem showsAll_plantAll (doc : Document) (top : Handle) :
    (trees : List Tree) →
      (doc.plantAll top trees).2.ShowsAll (doc.plantAll top trees).1 trees
  | [] => trivial
  | t :: rest => by
    have hframe := (sprouts_plantAll (doc.plant (some top) t).2 top rest).frame
    rw [plantAll]
    exact ⟨(shows_plant doc (some top) t).of_frame hframe,
      showsAll_plantAll (doc.plant (some top) t).2 top rest⟩

end

/-! ## Positions -/

/-- What lies below a node is found by child positions. -/
theorem exists_atPath_of_below {doc : Document} {top n : Handle} (h : doc.Below top n) :
    ∃ path, doc.atPath top path = some n := by
  have hstep : ∀ {a b c : Handle} {path : List Nat}, doc.atPath a path = some b →
      c ∈ doc.children b → ∃ path, doc.atPath a path = some c := by
    intro a b c path hp hc
    obtain ⟨i, hi⟩ := List.mem_iff_getElem?.mp hc
    induction path generalizing a with
    | nil =>
      cases hp
      exact ⟨[i], by rw [atPath, hi]; rfl⟩
    | cons j rest ih =>
      rw [atPath] at hp
      obtain ⟨child, hj, hrest⟩ := Option.bind_eq_some_iff.mp hp
      obtain ⟨path, hpath⟩ := ih hrest
      exact ⟨j :: path, by rw [atPath, hj]; exact hpath⟩
  induction h with
  | here => exact ⟨[], rfl⟩
  | child _ hc ih =>
    obtain ⟨path, hp⟩ := ih
    exact hstep hp hc

/-- Where the same tree stands at two nodes, a position that leads on from one leads on from the
other, and the same tree stands at its ends. -/
theorem Shows.atPath {a b : Document} {h h' : Handle} {t : Tree} (ha : a.Shows h t)
    (hb : b.Shows h' t) {path : List Nat} {n : Handle} (hp : a.atPath h path = some n) :
    ∃ n' s, b.atPath h' path = some n' ∧ a.Shows n s ∧ b.Shows n' s := by
  induction path generalizing h h' t with
  | nil =>
    cases hp
    exact ⟨h', t, rfl, ha, hb⟩
  | cons i rest ih =>
    rw [Document.atPath] at hp ⊢
    obtain ⟨child, hi, hrest⟩ := Option.bind_eq_some_iff.mp hp
    cases t with
    | node content children =>
      obtain ⟨s, hs, hchild⟩ := ha.2.getElem? hi
      have hlength : i < (b.children h').length := by
        have hlt := (List.getElem?_eq_some_iff.mp hs).1
        rw [hb.2.length_eq]
        exact hlt
      obtain ⟨child', hi'⟩ : ∃ child', (b.children h')[i]? = some child' :=
        ⟨_, List.getElem?_eq_getElem hlength⟩
      obtain ⟨s', hs', hchild'⟩ := hb.2.getElem? hi'
      rw [hs] at hs'
      cases hs'
      rw [hi']
      exact ih hchild hchild' hrest

/-- Where lists only grow at their ends, another length of one list below a node shows in the
tree there. -/
theorem not_shows_of_length_ne {a b : Document} {top p : Handle} {t : Tree}
    (hbelow : a.Below top p) (hlists : ∀ x, x ≠ p → a.children x <+: b.children x)
    (hlength : (b.children p).length ≠ (a.children p).length) (ha : a.Shows top t) :
    ¬ b.Shows top t := by
  intro hb
  obtain ⟨path, hpath⟩ := exists_atPath_of_below hbelow
  clear hbelow
  induction path generalizing top t with
  | nil =>
    cases hpath
    cases t with
    | node content children =>
      rw [ha.2.length_eq, hb.2.length_eq] at hlength
      exact hlength rfl
  | cons i rest ih =>
    rw [Document.atPath] at hpath
    obtain ⟨child, hi, hrest⟩ := Option.bind_eq_some_iff.mp hpath
    cases t with
    | node content children =>
      by_cases htop : top = p
      · subst htop
        rw [ha.2.length_eq, hb.2.length_eq] at hlength
        exact hlength rfl
      · obtain ⟨s, hs, hchild⟩ := ha.2.getElem? hi
        have hi' : (b.children top)[i]? = some child := by
          obtain ⟨hlt, hat⟩ := List.getElem?_eq_some_iff.mp hi
          rw [← hat]
          exact List.prefix_iff_getElem?.mp (hlists top htop) i hlt
        obtain ⟨s', hs', hchild'⟩ := hb.2.getElem? hi'
        rw [hs] at hs'
        cases hs'
        exact ih hchild hchild' hrest

end PageHost.Document
