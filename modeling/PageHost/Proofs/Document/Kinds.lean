import PageHost.Proofs.Document.Descent
import PageHost.Proofs.Document.Operations
/-!
# Kinds

A node keeps the kind that it was made with, whatever is done to it. So a fragment stays a
fragment, and as a fragment it never gets a parent.
-/

namespace PageHost.Document

/-- Every node goes on existing, with the kind that it had. -/
def KeepsKinds (a b : Document) : Prop :=
  ∀ x kind, a.kind? x = some kind → b.kind? x = some kind

variable {a b c : Document}

/-- Kinds that are kept twice are kept. -/
theorem KeepsKinds.trans (h : KeepsKinds a b) (h' : KeepsKinds b c) : KeepsKinds a c :=
  fun x kind hx => h' x kind (h x kind hx)

theorem keepsKinds_refl (doc : Document) : KeepsKinds doc doc := fun _ _ hx => hx

theorem keepsKinds_of_eq (h : ∀ x, b.kind? x = a.kind? x) : KeepsKinds a b :=
  fun x _ hx => (h x).trans hx

/-- What changes no old node changes no kind. -/
theorem keepsKinds_of_frame (h : ∀ x, x < a.size → b.node? x = a.node? x) : KeepsKinds a b :=
  fun x _ hx => (kind?_of_node?_eq (h x (lt_size_of_kind? hx))).trans hx

/-- Taking nodes out keeps all kinds. -/
theorem Loosened.keepsKinds {nodes : List Handle} (h : Loosened a nodes b) : KeepsKinds a b :=
  keepsKinds_of_eq h.kind

/-- Growth keeps all kinds. -/
theorem Grows.keepsKinds (h : Grows a b) : KeepsKinds a b := by
  induction h with
  | refl => exact keepsKinds_refl a
  | alike _ ha ih => exact ih.trans (keepsKinds_of_eq ha.kind)
  | @made b p name attributes content _ _ _ _ _ ih =>
    apply ih.trans
    intro x kind hx
    rw [kind?_eq, content?_createBelow, if_neg (Nat.ne_of_lt (lt_size_of_kind? hx)), ← kind?_eq]
    exact hx

/-! ## Operations -/

theorem keepsKinds_push (doc : Document) (node : Node) : KeepsKinds doc (doc.push node) :=
  keepsKinds_of_frame fun x hx => (node?_push doc node x).trans (if_neg (Nat.ne_of_lt hx))

/-- Content of the same kind keeps all kinds. -/
theorem keepsKinds_setContent {h : Handle} {content : Content}
    (hk : a.kind? h = some content.kind) : KeepsKinds a (a.setContent h content) := by
  intro x kind hx
  rw [kind?_eq, content?_setContent hk]
  split
  · rename_i he
    subst he
    rw [hk] at hx
    exact hx
  · rw [← kind?_eq]
    exact hx

theorem keepsKinds_detach (ht : a.Treelike) (h : Handle) : KeepsKinds a (left (detach h a)) := by
  unfold detach
  split
  · split
    · exact (loosened_unlink ht h).keepsKinds
    · exact keepsKinds_refl a
  · exact keepsKinds_refl a

/-- Nodes that may be put into a list keep their kinds, and so do all others. -/
theorem Placeable.keepsKinds {parent : Handle} {nodes : List Handle} (h : a.Placeable parent nodes)
    (place : List Handle → List Handle) : KeepsKinds a (a.link parent place nodes) := by
  obtain ⟨middle, hlinked, hgrown⟩ := exists_relinked h place
  exact (keepsKinds_of_eq hlinked.kind).trans hgrown.keepsKinds

/-- Every insertion keeps all kinds. -/
theorem Insertion.keepsKinds (ht : a.Treelike) {nodes : List Handle}
    {result : EStateM.Result DomError Document Unit} (h : Insertion a nodes result) :
    KeepsKinds a (left result) := by
  have hlink : ∀ {parent : Handle} {moved : List Handle} (place : List Handle → List Handle),
      a.movable parent nodes = .ok moved →
      KeepsKinds a ((a.unlinkAll moved).link parent place moved) := by
    intro parent moved place hm
    exact (loosened_unlinkAll ht moved).keepsKinds.trans
      ((placeable_of_movable ht hm).keepsKinds place)
  cases h with
  | refused e => exact keepsKinds_refl a
  | stuck anchor hm => exact (loosened_unlinkAll ht _).keepsKinds
  | linked place hm _ => exact hlink place hm
  | replaced old place hm hperm _ =>
    have hlinked := treelike_link ((loosened_unlinkAll ht _).treelike ht)
      (placeable_of_movable ht hm) (hperm _)
    exact (hlink place hm).trans (loosened_unlink hlinked old).keepsKinds

/-- Children that are replaced by a text keep all kinds. -/
theorem keepsKinds_replaceChildren (ht : a.Treelike) {h : Handle} {kind : Kind}
    (hk : a.kind? h = some kind) (hholds : kind.holdsChildren) (text : String) :
    KeepsKinds a (a.replaceChildren h text) := by
  have hemptied := loosened_foldl_unlink ht (a.children h)
  unfold replaceChildren
  dsimp only
  split
  · exact hemptied.keepsKinds
  · have hplace := placeable_text (hemptied.treelike ht) ((hemptied.kind h).trans hk) hholds text
    exact hemptied.keepsKinds.trans ((keepsKinds_push _ _).trans (hplace.keepsKinds _))

theorem keepsKinds_setText (ht : a.Treelike) (h : Handle) (text : String) :
    KeepsKinds a (left (setText h text a)) := by
  unfold setText
  cases hk : a.kindOf h with
  | error e => exact keepsKinds_refl a
  | ok kind =>
    rw [kindOf_ok_iff] at hk
    cases kind with
    | placeholder => exact keepsKinds_refl a
    | comment | text => exact keepsKinds_setContent hk
    | document | fragment | element => exact keepsKinds_replaceChildren ht hk rfl text

theorem keepsKinds_setAttribute (h : Handle) (name : String) (space : Option String)
    (value : String) : KeepsKinds a (left (setAttribute h name space value a)) := by
  unfold setAttribute
  split
  · exact keepsKinds_refl a
  · rename_i node hn
    split
    · rename_i element attributes hc
      apply keepsKinds_setContent
      rw [kind?_of_node? hn, hc]
      rfl
    · exact keepsKinds_refl a

theorem keepsKinds_removeAttribute (h : Handle) (name : String) (space : Option String) :
    KeepsKinds a (left (removeAttribute h name space a)) := by
  unfold removeAttribute
  split
  · exact keepsKinds_refl a
  · rename_i node hn
    split
    · rename_i element attributes hc
      split
      · apply keepsKinds_setContent
        rw [kind?_of_node? hn, hc]
        rfl
      · exact keepsKinds_refl a
    · exact keepsKinds_refl a

/-- A fragment stands nowhere. -/
theorem Treelike.parent?_of_fragment (ht : a.Treelike) {h : Handle}
    (hk : a.kind? h = some .fragment) : a.parent? h = none := by
  cases hp : a.parent? h with
  | none => rfl
  | some p => exact absurd hk (ht.inner h p hp).2

end PageHost.Document
