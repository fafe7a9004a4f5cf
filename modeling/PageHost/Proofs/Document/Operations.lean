import PageHost.Proofs.Document.Walks
/-!
# Runs of operations

`Operation` is what a caller can do to a document, with any handles for
arguments. Whatever the operations are and whether they are refused or not, the
links of the document stay in order.
-/

namespace PageHost.Document

/-! ## Changes that lose no node -/

/-- `b` came from the treelike `a` without the loss of a node. -/
structure Advances (a b : Document) : Prop where
  size_le : a.size ≤ b.size
  treelike : b.Treelike
  allListed : a.AllListed → b.AllListed

theorem Advances.refl {doc : Document} (ht : doc.Treelike) : Advances doc doc :=
  ⟨Nat.le_refl _, ht, id⟩

/-- Two advances are one. -/
theorem Advances.trans {a b c : Document} (h : Advances a b) (h' : Advances b c) :
    Advances a c :=
  ⟨Nat.le_trans h.size_le h'.size_le, h'.treelike, fun ha => h'.allListed (h.allListed ha)⟩

/-- Taking nodes out is an advance. -/
theorem Loosened.advances {a b : Document} {nodes : List Handle} (h : Loosened a nodes b)
    (ht : a.Treelike) : Advances a b :=
  ⟨Nat.le_of_eq h.size.symm, h.treelike ht, h.allListed⟩

/-- Making a node is an advance. -/
theorem advances_create {doc : Document} (ht : doc.Treelike) (content : Content) :
    Advances doc (doc.create content).2 := by
  refine ⟨?_, treelike_push ht false nofun, fun ha => allListed_push ht ha content false⟩
  show doc.size ≤ (doc.push _).size
  rw [size_push]
  exact Nat.le_succ _

theorem advances_detach {doc : Document} (ht : doc.Treelike) (h : Handle) :
    Advances doc (left (detach h doc)) := by
  unfold detach
  split
  · split
    · exact (loosened_unlink ht h).advances ht
    · exact .refl ht
  · exact .refl ht

/-- Copying a node is an advance. -/
theorem advances_deepClone {doc : Document} (ht : doc.Treelike) (h : Handle) :
    Advances doc (left (deepClone h doc)) := by
  cases hc : deepClone h doc with
  | ok copy doc' =>
    have hp := planted_deepClone ht hc
    exact ⟨hp.size_le, hp.treelike, fun ha => hp.allListed ht ha⟩
  | error e doc' =>
    unfold deepClone at hc
    split at hc
    · cases hc
      exact .refl ht
    · cases hc

/-! ### Contents -/

/-- New content of the same kind does not disturb the tree. -/
theorem advances_setContent {doc : Document} (ht : doc.Treelike) {h : Handle} {content : Content}
    (hk : doc.kind? h = some content.kind) : Advances doc (doc.setContent h content) := by
  have hkind : ∀ x, (doc.setContent h content).kind? x = doc.kind? x := by
    intro x
    rw [kind?_eq, content?_setContent hk]
    split
    · rename_i hx
      exact hx ▸ hk.symm
    · rw [kind?_eq]
  refine ⟨Nat.le_of_eq (size_setContent doc h content).symm,
    ht.congr hkind (fun x => parent?_setContent doc h x content)
      (fun x => children_setContent doc h x content), ?_⟩
  intro ha p c hp
  rw [parent?_setContent] at hp
  rw [children_setContent]
  exact ha p c hp

/-- The kind of a node is that of its content. -/
theorem kind?_of_node? {doc : Document} {h : Handle} {node : Node} (hn : doc.node? h = some node) :
    doc.kind? h = some node.content.kind := by
  rw [kind?, hn]
  rfl

theorem advances_setAttribute {doc : Document} (ht : doc.Treelike) (h : Handle) (name : String)
    (space : Option String) (value : String) :
    Advances doc (left (setAttribute h name space value doc)) := by
  unfold setAttribute
  split
  · exact .refl ht
  · rename_i node hn
    split
    · rename_i element attributes hc
      apply advances_setContent ht
      rw [kind?_of_node? hn, hc]
      rfl
    · exact .refl ht

theorem advances_removeAttribute {doc : Document} (ht : doc.Treelike) (h : Handle) (name : String)
    (space : Option String) : Advances doc (left (removeAttribute h name space doc)) := by
  unfold removeAttribute
  split
  · exact .refl ht
  · rename_i node hn
    split
    · rename_i element attributes hc
      split
      · apply advances_setContent ht
        rw [kind?_of_node? hn, hc]
        rfl
      · exact .refl ht
    · exact .refl ht

/-! ### The text of a container -/

/-- A node that is nobody's parent is above nothing. -/
theorem not_above_of_childless {doc : Document} {top c : Handle}
    (hup : ∀ x, doc.parent? x ≠ some top) : ¬ doc.Above c top := by
  intro ha
  induction ha with
  | parent hp => exact hup _ hp
  | step _ _ ih => exact ih hup

/-- A fresh text may be put into the list of a container. -/
theorem placeable_text {doc : Document} (ht : doc.Treelike) {h : Handle} {kind : Kind}
    (hk : doc.kind? h = some kind) (hholds : kind.holdsChildren) (text : String) :
    (doc.create (.text text)).2.Placeable h [doc.size] := by
  have hs : h < doc.size := lt_size_of_kind? hk
  have hfresh : (doc.create (.text text)).2.parent? doc.size = none := by
    show (doc.push _).parent? doc.size = none
    rw [parent?_push, if_pos rfl]
  have htext : (doc.create (.text text)).2.kind? doc.size = some .text := by
    show (doc.push _).kind? doc.size = _
    rw [kind?_eq, content?_push, if_pos rfl]
    rfl
  have hcontainer : (doc.create (.text text)).2.kind? h = some kind := by
    show (doc.push _).kind? h = _
    rw [kind?_eq, content?_push, if_neg (Nat.ne_of_lt hs), ← kind?_eq, hk]
  refine ⟨⟨kind, hcontainer, hholds⟩, ?_, ?_, ?_, ?_⟩
  · intro c hc
    rw [List.mem_singleton.mp hc]
    exact lt_size_of_kind? htext
  · intro c hc
    rw [List.mem_singleton.mp hc, hfresh]
  · intro c hc
    rw [List.mem_singleton.mp hc, htext]
    exact ⟨nofun, nofun⟩
  · intro c hc
    rw [List.mem_singleton.mp hc]
    refine ⟨(Nat.ne_of_lt hs).symm, fun ha => ?_⟩
    refine not_above_of_childless (fun x hx => ?_) ha
    replace hx : (doc.push _).parent? x = some doc.size := hx
    rw [parent?_push] at hx
    split at hx
    · cases hx
    · exact Nat.lt_irrefl _ (ht.parent_lt_size hx)

/-- Replacing children by a text is an advance. -/
theorem advances_replaceChildren {doc : Document} (ht : doc.Treelike) {h : Handle} {kind : Kind}
    (hk : doc.kind? h = some kind) (hholds : kind.holdsChildren) (text : String) :
    Advances doc (doc.replaceChildren h text) := by
  have hl := loosened_foldl_unlink ht (doc.children h)
  have hempty := hl.advances ht
  unfold replaceChildren
  dsimp only
  split
  · exact hempty
  · have hmade := advances_create hempty.treelike (.text text)
    have hplace := placeable_text hempty.treelike ((hl.kind h).trans hk) hholds text
    refine (hempty.trans hmade).trans ⟨?_, ?_, ?_⟩
    · obtain ⟨b, hb, hg⟩ := exists_relinked hplace (· ++ [((doc.children h).foldl unlink doc).size])
      rw [← hb.size]
      exact hg.size_le
    · exact treelike_link hmade.treelike hplace (List.Perm.refl _)
    · intro ha
      apply (allListed_link hplace hmade.treelike (List.Perm.refl _) ha).mpr
      exact List.nodup_cons.mpr ⟨List.not_mem_nil, List.nodup_nil⟩

theorem advances_setText {doc : Document} (ht : doc.Treelike) (h : Handle) (text : String) :
    Advances doc (left (setText h text doc)) := by
  unfold setText
  cases hk : doc.kindOf h with
  | error e => exact .refl ht
  | ok kind =>
    rw [kindOf_ok_iff] at hk
    cases kind with
    | placeholder => exact .refl ht
    | comment => exact advances_setContent ht hk
    | text => exact advances_setContent ht hk
    | document => exact advances_replaceChildren ht hk rfl text
    | fragment => exact advances_replaceChildren ht hk rfl text
    | element => exact advances_replaceChildren ht hk rfl text

/-! ## Insertions -/

/-- Whatever becomes of an insertion, no node is freed. -/
theorem Insertion.size_le {doc : Document} (ht : doc.Treelike) {nodes : List Handle}
    {result : EStateM.Result DomError Document Unit} (h : Insertion doc nodes result) :
    doc.size ≤ (left result).size := by
  have hlink : ∀ {parent : Handle} {moved : List Handle} (place : List Handle → List Handle),
      doc.movable parent nodes = .ok moved →
      doc.size ≤ ((doc.unlinkAll moved).link parent place moved).size := by
    intro parent moved place hm
    obtain ⟨b, hb, hg⟩ := exists_relinked (placeable_of_movable ht hm) place
    rw [← (loosened_unlinkAll ht moved).size, ← hb.size]
    exact hg.size_le
  cases h with
  | refused e => exact Nat.le_refl _
  | stuck anchor hm => exact Nat.le_of_eq (loosened_unlinkAll ht _).size.symm
  | linked place hm _ => exact hlink place hm
  | replaced old place hm hperm _ =>
    have hlinked := treelike_link ((loosened_unlinkAll ht _).treelike ht)
      (placeable_of_movable ht hm) (hperm _)
    show doc.size ≤ (unlink _ old).size
    rw [(loosened_unlink hlinked old).size]
    exact hlink place hm

/-! ## Runs -/

/-- An operation on a document with its arguments. -/
inductive Operation where
  | createElement (tag : String) (space : Option String)
  | createText (text : String)
  | createComment (text : String)
  | createPlaceholder
  | createFragment
  | appendChildren (parent : Handle) (nodes : List Handle)
  | insertBefore (reference : Handle) (nodes : List Handle)
  | insertAfter (reference : Handle) (nodes : List Handle)
  | replaceWith (old : Handle) (nodes : List Handle)
  | detach (node : Handle)
  | setText (node : Handle) (text : String)
  | setAttribute (node : Handle) (name : String) (space : Option String) (value : String)
  | removeAttribute (node : Handle) (name : String) (space : Option String)
  | deepClone (node : Handle)

/-- The document that an operation leaves, refused or not. -/
def Operation.run (doc : Document) : Operation → Document
  | .createElement tag space => (doc.createElement tag space).2
  | .createText text => (doc.create (.text text)).2
  | .createComment text => (doc.create (.comment text)).2
  | .createPlaceholder => (doc.create .placeholder).2
  | .createFragment => (doc.create .fragment).2
  | .appendChildren parent nodes => left (Document.appendChildren parent nodes doc)
  | .insertBefore reference nodes => left (Document.insertBefore reference nodes doc)
  | .insertAfter reference nodes => left (Document.insertAfter reference nodes doc)
  | .replaceWith old nodes => left (Document.replaceWith old nodes doc)
  | .detach node => left (Document.detach node doc)
  | .setText node text => left (Document.setText node text doc)
  | .setAttribute node name space value => left (Document.setAttribute node name space value doc)
  | .removeAttribute node name space => left (Document.removeAttribute node name space doc)
  | .deepClone node => left (Document.deepClone node doc)

/-- The document after operations on the blank page. -/
def afterOperations (operations : List Operation) : Document := operations.foldl Operation.run blank

/-- No operation frees a node. -/
theorem size_le_run {doc : Document} (ht : doc.Treelike) (operation : Operation) :
    doc.size ≤ (operation.run doc).size := by
  cases operation with
  | createElement tag space => exact (advances_create ht _).size_le
  | createText text => exact (advances_create ht _).size_le
  | createComment text => exact (advances_create ht _).size_le
  | createPlaceholder => exact (advances_create ht _).size_le
  | createFragment => exact (advances_create ht _).size_le
  | appendChildren parent nodes => exact (insertion_appendChildren doc parent nodes).size_le ht
  | insertBefore reference nodes => exact (insertion_insertBefore ht reference nodes).size_le ht
  | insertAfter reference nodes => exact (insertion_insertAfter ht reference nodes).size_le ht
  | replaceWith old nodes => exact (insertion_replaceWith ht old nodes).size_le ht
  | detach node => exact (advances_detach ht node).size_le
  | setText node text => exact (advances_setText ht node text).size_le
  | setAttribute node name space value =>
    exact (advances_setAttribute ht node name space value).size_le
  | removeAttribute node name space => exact (advances_removeAttribute ht node name space).size_le
  | deepClone node => exact (advances_deepClone ht node).size_le

/-- One operation keeps the links in order. -/
theorem treelike_run {doc : Document} (ht : doc.Treelike) (operation : Operation) :
    (operation.run doc).Treelike := by
  cases operation with
  | createElement tag space => exact (advances_create ht _).treelike
  | createText text => exact (advances_create ht _).treelike
  | createComment text => exact (advances_create ht _).treelike
  | createPlaceholder => exact (advances_create ht _).treelike
  | createFragment => exact (advances_create ht _).treelike
  | appendChildren parent nodes => exact (insertion_appendChildren doc parent nodes).treelike ht
  | insertBefore reference nodes => exact (insertion_insertBefore ht reference nodes).treelike ht
  | insertAfter reference nodes => exact (insertion_insertAfter ht reference nodes).treelike ht
  | replaceWith old nodes => exact (insertion_replaceWith ht old nodes).treelike ht
  | detach node => exact (advances_detach ht node).treelike
  | setText node text => exact (advances_setText ht node text).treelike
  | setAttribute node name space value => exact (advances_setAttribute ht node name space value).treelike
  | removeAttribute node name space => exact (advances_removeAttribute ht node name space).treelike
  | deepClone node => exact (advances_deepClone ht node).treelike

/-- Operations keep a document treelike, one after the other. -/
theorem treelike_foldl_run {doc : Document} (ht : doc.Treelike) (operations : List Operation) :
    (operations.foldl Operation.run doc).Treelike := by
  induction operations generalizing doc with
  | nil => exact ht
  | cons operation rest ih => exact ih (treelike_run ht operation)

/-- Whatever operations have been carried out or refused, a listed child has its
lister for a parent, no node is listed twice, in one list or in two, going up
from a node ends and never comes back, the bounded walk upwards sees all of it,
only documents, fragments and elements list children, and neither documents nor
fragments have a parent. -/
theorem links_afterOperations (operations : List Operation) :
    (∀ p c, c ∈ (afterOperations operations).children p →
      (afterOperations operations).parent? c = some p) ∧
    (∀ p, ((afterOperations operations).children p).Nodup) ∧
    (∀ p q c, c ∈ (afterOperations operations).children p →
      c ∈ (afterOperations operations).children q → p = q) ∧
    (WellFounded fun p c => (afterOperations operations).parent? c = some p) ∧
    (∀ h, ¬ (afterOperations operations).Above h h) ∧
    (∀ h, (afterOperations operations).ancestors h =
      match (afterOperations operations).parent? h with
      | none => []
      | some p => p :: (afterOperations operations).ancestors p) ∧
    (∀ p, (afterOperations operations).children p ≠ [] →
      (afterOperations operations).kind? p = some .document ∨
      (afterOperations operations).kind? p = some .fragment ∨
      (afterOperations operations).kind? p = some .element) ∧
    (∀ h, (afterOperations operations).kind? h = some .document ∨
      (afterOperations operations).kind? h = some .fragment →
      (afterOperations operations).parent? h = none) := by
  have ht : (afterOperations operations).Treelike := treelike_foldl_run treelike_blank operations
  generalize afterOperations operations = doc at ht
  refine ⟨ht.parent_of_mem, ht.nodup, fun p q c => ht.lister_unique, ht.rises, ht.not_above_self,
    ?_, ?_, ?_⟩
  · intro h
    cases hp : doc.parent? h with
    | none => exact Treelike.ancestors_of_parent?_none hp
    | some p => exact ht.ancestors_eq hp
  · intro p hne
    obtain ⟨c, hc⟩ := List.exists_mem_of_ne_nil _ hne
    obtain ⟨kind, hk, hholds⟩ := ht.container_of_mem hc
    rw [hk]
    cases kind with
    | document => exact Or.inl rfl
    | fragment => exact Or.inr (Or.inl rfl)
    | element => exact Or.inr (Or.inr rfl)
    | text => cases hholds
    | comment => cases hholds
    | placeholder => cases hholds
  · intro h hk
    cases hp : doc.parent? h with
    | none => rfl
    | some p =>
      obtain ⟨hd, hf⟩ := ht.inner h p hp
      rcases hk with hk | hk
      · exact absurd hk hd
      · exact absurd hk hf

end PageHost.Document
