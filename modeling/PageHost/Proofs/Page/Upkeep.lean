import PageHost.Proofs.Document.Kinds
import PageHost.Proofs.Document.Live
import PageHost.Proofs.Page.Guard
/-!
# What edits keep of the document

An edit makes a node, writes to one, inserts nodes or takes one from its place, and does
the rest beside the nodes. A property of documents that each of these keeps is lasting: every
edit keeps it, carried out or not. That a node exists with its kind and that live nodes
stand somewhere are such properties.
-/

namespace PageHost

namespace Document

variable {doc doc' : Document} {node : Handle}

/-- The property depends on the nodes alone, and each change of them that an edit makes keeps it. -/
structure Lasting (P : Document → Prop) : Prop where
  nodes : ∀ {a b : Document}, b.nodes = a.nodes → P a → P b
  makes : ∀ {a b : Document} {node : Handle}, a.Treelike → a.Makes node b → P a → P b
  rewrites : ∀ {a b : Document} {node : Handle}, a.Treelike → a.Rewrites node b → P a → P b
  inserts : ∀ {a : Document} {nodes : List Handle} {result : EStateM.Result DomError Document Unit},
    a.Treelike → Insertion a nodes result → P a → P (left result)
  detaches : ∀ {a : Document} (h : Handle), a.Treelike → P a → P (left (detach h a))

/-! ## Kinds -/

/-- Making a node changes no old node. -/
theorem Makes.frame (hm : doc.Makes node doc')
    (ht : doc.Treelike) : doc'.rootListeners = doc.rootListeners ∧ doc.size ≤ doc'.size ∧
      ∀ x, x < doc.size → doc'.node? x = doc.node? x := by
  cases hm with
  | created content =>
    refine ⟨rfl, (advances_create ht content).size_le, fun x hx => ?_⟩
    exact (node?_push doc _ x).trans (if_neg (Nat.ne_of_lt hx))
  | @copied original copy doc' hc =>
    have hplanted := planted_deepClone ht hc
    have hlisteners := keepsListeners_deepClone original doc
    rw [hc] at hlisteners
    exact ⟨hlisteners, hplanted.size_le, hplanted.frame⟩

/-- A node that is rewritten keeps all kinds. -/
theorem Rewrites.keepsKinds (hw : doc.Rewrites node doc') (ht : doc.Treelike) :
    KeepsKinds doc doc' :=
  hw.of_left (keepsKinds_setText ht node) (keepsKinds_setAttribute node)
    (keepsKinds_removeAttribute node)

/-- A node goes on existing with its kind. -/
theorem lasting_kind (h : Handle) (kind : Kind) : Lasting fun doc => doc.kind? h = some kind where
  nodes hn hk := ((alike_of_nodes hn).kind h).trans hk
  makes ht hm hk := keepsKinds_of_frame (hm.frame ht).2.2 h kind hk
  rewrites ht hw hk := hw.keepsKinds ht h kind hk
  inserts ht hi hk := hi.keepsKinds ht h kind hk
  detaches x ht hk := keepsKinds_detach ht x h kind hk

/-! ## Live nodes -/

/-- Whether live nodes stand depends on the nodes only. -/
theorem standing_of_nodes {a b : Document} (hn : b.nodes = a.nodes) (h : a.Standing) :
    b.Standing := by
  intro x hx
  have hnode : b.node? x = a.node? x := by rw [node?, hn, node?]
  rw [live_of_node?_eq hnode] at hx
  exact (alike_of_nodes hn).stands (h x hx)

/-- Live nodes go on standing when a node is made. -/
theorem Makes.standing (hm : doc.Makes node doc') (h : doc.Standing) (ht : doc.Treelike) :
    doc'.Standing := by
  cases hm with
  | created content => exact standing_create h content
  | @copied original copy doc' hc =>
    have hcopied := standing_deepClone h ht original
    rwa [hc] at hcopied

theorem Rewrites.standing (hw : doc.Rewrites node doc') (h : doc.Standing) (ht : doc.Treelike) :
    doc'.Standing :=
  hw.of_left (standing_setText h ht node) (standing_setAttribute h node)
    (standing_removeAttribute h node)

/-- Every live node goes on standing somewhere. -/
theorem lasting_standing : Lasting Standing where
  nodes := standing_of_nodes
  makes ht hm h := hm.standing h ht
  rewrites ht hw h := hw.standing h ht
  inserts ht hi h := hi.standing h ht
  detaches x ht h := standing_detach h ht x

end Document

namespace Page

/-- A page stays treelike when a fragment is made. -/
theorem treelike_withFragment {page : Page} (hw : page.WellFormed) :
    page.withFragment.Treelike := (Document.advances_create hw.tree .fragment).treelike

/-! ## Edits -/

/-- Every edit, carried out or not, keeps what is lasting. -/
theorem lasting_apply {P : Document → Prop} (hp : Document.Lasting P) {page : Page}
    (hw : page.WellFormed) (h : P page.document) (edit : Edit) :
    P (left (apply edit page)).document := by
  have hinserted : ∀ {change : List Handle → Document.Change Unit} {operands : Operands}
      {edit : Edit} {count : Nat} (nodes : List Handle),
      Places { page with operands := operands } edit count change →
      P (left (change nodes page.document)) :=
    fun nodes hplace => hp.inserts hw.tree (hplace.insertion hw.tree nodes) h
  have hgathered : ∀ (nodes : List Handle),
      P (left (Document.appendChildren page.document.size nodes page.withFragment)) := by
    intro nodes
    have hmade : P page.withFragment := hp.makes hw.tree (.created .fragment) h
    have hinsert := Document.insertion_appendChildren page.withFragment page.document.size nodes
    exact hp.inserts (treelike_withFragment hw) hinsert hmade
  have hreleased : ∀ {nodes : List Handle} {operands : Operands} {doc : Document},
      Document.appendChildren page.document.size nodes page.withFragment = .ok () doc →
      P (page.gathered operands doc).document := by
    intro nodes operands doc hc
    have hdoc := hgathered nodes
    rw [hc] at hdoc
    exact hp.nodes (nodes_forgetAll _ _) hdoc
  have hdetached : ∀ (id : NodeId) (node : Handle),
      P (left (Document.detach node (page.release id).2.document)) := by
    intro id node
    have hnodes := nodes_release page id
    exact hp.detaches node ((Document.alike_of_nodes hnodes).treelike hw.tree) (hp.nodes hnodes h)
  have hends := ends_apply page edit
  generalize apply edit page = result at hends ⊢
  cases hends with
  | refused _ _ _ => exact h
  | unnamed _ hmade _ => exact hp.makes hw.tree hmade h
  | created _ hmade _ _ => exact hp.makes hw.tree hmade h
  | assigned _ _ _ _ _ => exact h
  | seeded _ _ _ _ _ => exact h
  | moved id value _ _ =>
    show P (Page.document (if _ then _ else _))
    split
    · exact h
    · exact hp.nodes (Delegation.nodes_forget _ _ id) h
  | pushed _ _ => exact h
  | popped _ => exact h
  | written _ _ hwrites => exact hp.rewrites hw.tree hwrites h
  | unplaced _ _ _ _ => exact h
  | @stopped _ _ _ nodes _ _ _ _ hplace hc =>
    have hdoc := hinserted nodes hplace
    rwa [hc] at hdoc
  | @inserted _ _ _ nodes _ _ _ _ hplace hc =>
    have hdoc := hinserted nodes hplace
    rw [hc] at hdoc
    exact hp.nodes (nodes_finish edit _) hdoc
  | absent _ _ => exact h
  | @removed node _ _ id _ _ hd =>
    have hdoc := hdetached id node
    rwa [hd] at hdoc
  | @missing node _ _ id _ hd =>
    have hdoc := hdetached id node
    rwa [hd] at hdoc
  | listened name id handler _ => exact hp.nodes (Delegation.nodes_listen _ _ id name handler) h
  | unlistened id name => exact hp.nodes (Delegation.nodes_unlisten _ _ id name) h
  | @ungathered nodes _ _ _ _ _ _ hc =>
    have hdoc := hgathered nodes
    rwa [hc] at hdoc
  | taken _ _ _ hc _ => exact hreleased hc
  | known _ _ _ hc _ => exact hreleased hc
  | registered _ _ _ _ hc _ => exact hreleased hc

end Page

end PageHost
