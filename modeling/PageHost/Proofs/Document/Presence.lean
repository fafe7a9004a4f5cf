import PageHost.Proofs.Document.Shape
/-!
# Nodes that exist

Nodes are never freed, so a node that exists has all its ancestors and all that lies
below it. An operation reports a missing node only for a node that it is given, or for
one below that: with nodes that exist it may be refused, but for another reason.
-/

namespace PageHost

/-- The error says that a node does not exist. -/
def DomError.isMissing : DomError → Bool
  | .missingNode _ => true
  | _ => false

namespace Document

/-- The node exists, and so do all nodes above it and below it. -/
structure Grounded (doc : Document) (h : Handle) : Prop where
  exist : doc.contains h = true
  above : ∀ a, doc.Above h a → doc.contains a = true
  below : ∀ d, doc.Below h d → doc.contains d = true

variable {doc : Document}

/-- In a treelike document every node that exists is grounded. -/
theorem Treelike.grounded (ht : doc.Treelike) {h : Handle} (hs : h < doc.size) :
    doc.Grounded h where
  exist := (contains_iff doc h).mpr hs
  above a ha := (contains_iff doc a).mpr (ht.above_lt_size ha)
  below d hd := (contains_iff doc d).mpr (hd.lt_size ht hs)

/-- The operation does not miss a node: if it is refused, then for another reason. -/
def MissesNone {α : Type} (change : Change α) (doc : Document) : Prop :=
  ∀ e after, change doc = .error e after → e.isMissing = false

/-! ## The checks -/

/-- The kind of a node that exists can be read. -/
theorem exists_kindOf {h : Handle} (hs : h < doc.size) : ∃ kind, doc.kindOf h = .ok kind :=
  (exists_kind? hs).imp fun kind => (kindOf_ok_iff doc h kind).mpr

/-- Nodes that exist have nodes to move, which exist too. -/
theorem exists_flatten (ht : doc.Treelike) {nodes : List Handle}
    (hn : ∀ x ∈ nodes, x < doc.size) :
    ∃ moved, doc.flatten nodes = .ok moved ∧ ∀ x ∈ moved, x < doc.size := by
  induction nodes with
  | nil => exact ⟨[], rfl, nofun⟩
  | cons h rest ih =>
    obtain ⟨hh, hrest⟩ := List.forall_mem_cons.mp hn
    obtain ⟨kind, hk⟩ := exists_kindOf hh
    obtain ⟨moved, hm, hmoved⟩ := ih hrest
    refine ⟨(if kind = .fragment then doc.children h else [h]) ++ moved, ?_, ?_⟩
    · rw [flatten, hk, hm]
    · intro x hx
      rcases List.mem_append.mp hx with hx | hx
      · split at hx
        · exact ht.child_lt_size hx
        · rw [List.mem_singleton.mp hx]
          exact hh
      · exact hmoved x hx

theorem isMissing_mayAllMove {parent : Handle} {nodes : List Handle}
    (hn : ∀ x ∈ nodes, x < doc.size) {e : DomError} (he : doc.mayAllMove parent nodes = .error e) :
    e.isMissing = false := by
  induction nodes with
  | nil => cases he
  | cons h rest ih =>
    obtain ⟨hh, hrest⟩ := List.forall_mem_cons.mp hn
    obtain ⟨kind, hk⟩ := exists_kindOf hh
    rw [mayAllMove, hk] at he
    dsimp only at he
    split at he
    · cases he
      rfl
    · exact ih hrest he

/-- When existing nodes cannot be moved below a parent, no node is reported missing. -/
theorem isMissing_movable (ht : doc.Treelike) {parent : Handle} (hp : parent < doc.size)
    {nodes : List Handle} (hn : ∀ x ∈ nodes, x < doc.size) {e : DomError}
    (he : doc.movable parent nodes = .error e) : e.isMissing = false := by
  obtain ⟨kind, hk⟩ := exists_kindOf hp
  obtain ⟨moved, hm, hmoved⟩ := exists_flatten ht hn
  unfold movable at he
  rw [hk] at he
  dsimp only at he
  split at he
  · rw [hm] at he
    dsimp only at he
    split at he
    · rename_i hmay
      cases he
      exact isMissing_mayAllMove hmoved hmay
    · cases he
  · cases he
    rfl

/-- When an existing reference is refused as an anchor, no node is reported missing. -/
theorem isMissing_anchorParent {reference : Handle} (hr : reference < doc.size)
    {nodes : List Handle} {e : DomError} (he : doc.anchorParent reference nodes = .error e) :
    e.isMissing = false := by
  unfold anchorParent at he
  rw [if_pos ((contains_iff doc reference).mpr hr)] at he
  split at he
  · cases he
    rfl
  · split at he
    · cases he
      rfl
    · cases he

/-! ## Insertions -/

/-- Linking before an anchor reports no node missing. -/
theorem missesNone_linkBefore (anchor : Handle) (nodes : List Handle) (doc : Document) :
    MissesNone (linkBefore anchor nodes) doc := by
  intro e after he
  unfold linkBefore at he
  split at he
  · cases he
    rfl
  · split at he
    · cases he
    · cases he
      rfl

/-- The nodes are checked and taken from their places, and then put in place by a step that misses
none. -/
theorem missesNone_prepare (ht : doc.Treelike) {parent : Handle} (hp : parent < doc.size)
    {nodes : List Handle} (hn : ∀ x ∈ nodes, x < doc.size) {finish : List Handle → Change Unit}
    (hfinish : ∀ moved after, MissesNone (finish moved) after) :
    MissesNone (prepare parent nodes >>= finish) doc := by
  intro e after he
  cases hm : doc.movable parent nodes with
  | error cause =>
    rw [run_bind_of_error (prepare_of_error hm)] at he
    cases he
    exact isMissing_movable ht hp hn hm
  | ok moved =>
    rw [run_bind_of_ok (prepare_of_ok hm)] at he
    exact hfinish moved _ e after he

/-- Appending existing nodes reports no node missing. -/
theorem missesNone_appendChildren (ht : doc.Treelike) (parent : Handle) (nodes : List Handle)
    (hp : parent < doc.size) (hn : ∀ x ∈ nodes, x < doc.size) :
    MissesNone (appendChildren parent nodes) doc :=
  missesNone_prepare ht hp hn fun _ _ _ _ he => nomatch he

/-- The place is found by a reference node that exists. -/
theorem missesNone_beside (ht : doc.Treelike) {reference : Handle} (hr : reference < doc.size)
    {nodes : List Handle} (hn : ∀ x ∈ nodes, x < doc.size)
    {finish : Handle → List Handle → Change Unit}
    (hfinish : ∀ parent moved after, MissesNone (finish parent moved) after) :
    MissesNone (do
      let parent ← check fun doc => doc.anchorParent reference nodes
      let moved ← prepare parent nodes
      finish parent moved : Change Unit) doc := by
  intro e after he
  cases ha : doc.anchorParent reference nodes with
  | error cause =>
    rw [run_bind_of_error (check_of_error ha)] at he
    cases he
    exact isMissing_anchorParent hr ha
  | ok parent =>
    have hp := ht.parent_lt_size (anchorParent_ok ha).1
    rw [run_bind_of_ok (check_of_ok ha)] at he
    exact missesNone_prepare ht hp hn (hfinish parent) e after he

theorem missesNone_insertBefore (ht : doc.Treelike) (reference : Handle) (nodes : List Handle)
    (hr : reference < doc.size) (hn : ∀ x ∈ nodes, x < doc.size) :
    MissesNone (insertBefore reference nodes) doc :=
  missesNone_beside ht hr hn fun _ moved => missesNone_linkBefore reference moved

theorem missesNone_insertAfter (ht : doc.Treelike) (reference : Handle) (nodes : List Handle)
    (hr : reference < doc.size) (hn : ∀ x ∈ nodes, x < doc.size) :
    MissesNone (insertAfter reference nodes) doc := by
  apply missesNone_beside ht hr hn
  intro parent moved after e failed he
  have hget : (get : Change Document) after = .ok after after := rfl
  rw [run_bind_of_ok hget] at he
  cases hnext : after.nextSibling? parent reference with
  | none =>
    rw [hnext] at he
    cases he
  | some next =>
    rw [hnext] at he
    exact missesNone_linkBefore next moved after e failed he

theorem missesNone_replaceWith (ht : doc.Treelike) (old : Handle) (nodes : List Handle)
    (ho : old < doc.size) (hn : ∀ x ∈ nodes, x < doc.size) :
    MissesNone (replaceWith old nodes) doc := by
  apply missesNone_beside ht ho hn
  intro parent moved after e failed he
  cases hl : linkBefore old moved after with
  | error cause stopped =>
    rw [run_bind_of_error hl] at he
    cases he
    exact missesNone_linkBefore old moved after _ _ hl
  | ok u linked =>
    rw [run_bind_of_ok hl] at he
    cases he

/-! ## Changes of one node -/

/-- Setting the text of an existing node reports no node missing. -/
theorem missesNone_setText {h : Handle} (hs : h < doc.size) (text : String) :
    MissesNone (setText h text) doc := by
  intro e after he
  obtain ⟨kind, hk⟩ := exists_kindOf hs
  unfold setText at he
  rw [hk] at he
  cases kind <;> cases he
  rfl

theorem missesNone_setAttribute {h : Handle} (hs : h < doc.size) (name : String)
    (space : Option String) (value : String) :
    MissesNone (setAttribute h name space value) doc := by
  intro e after he
  obtain ⟨node, hn⟩ := node?_of_lt_size hs
  unfold setAttribute at he
  rw [hn] at he
  dsimp only at he
  split at he
  · cases he
  · cases he
    rfl

theorem missesNone_removeAttribute {h : Handle} (hs : h < doc.size) (name : String)
    (space : Option String) : MissesNone (removeAttribute h name space) doc := by
  intro e after he
  obtain ⟨node, hn⟩ := node?_of_lt_size hs
  unfold removeAttribute at he
  rw [hn] at he
  dsimp only at he
  split at he
  · split at he <;> cases he
  · cases he
    rfl

/-- A node that exists can be taken out of the tree. -/
theorem exists_detach {h : Handle} (hs : h < doc.size) :
    ∃ found after, detach h doc = .ok found after := by
  unfold detach
  rw [if_pos ((contains_iff doc h).mpr hs)]
  split
  · exact ⟨true, _, rfl⟩
  · exact ⟨false, _, rfl⟩

end Document

end PageHost
