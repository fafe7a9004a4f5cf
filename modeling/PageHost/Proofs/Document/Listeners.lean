import PageHost.Proofs.Run
import PageHost.Document.Change
/-!
# The root listeners

Operations on the tree leave the names of the events alone that the page listens
for. So does everything that they are made of.
-/

namespace PageHost.Document

/-- Steps that keep the root listeners keep them one after the other. -/
theorem rootListeners_foldl {α : Type} {f : Document → α → Document}
    (hf : ∀ doc a, (f doc a).rootListeners = doc.rootListeners) (doc : Document) (list : List α) :
    (list.foldl f doc).rootListeners = doc.rootListeners := by
  induction list generalizing doc with
  | nil => rfl
  | cons a rest ih => exact (ih (f doc a)).trans (hf doc a)

theorem rootListeners_markLive (doc : Document) (h : Handle) (live : Bool) :
    (doc.markLive h live).rootListeners = doc.rootListeners := by
  unfold markLive
  apply rootListeners_foldl
  exact fun _ _ => rfl

/-- Taking a node out keeps the root listeners. -/
theorem rootListeners_unlink (doc : Document) (h : Handle) :
    (doc.unlink h).rootListeners = doc.rootListeners := by
  unfold unlink
  rw [rootListeners_markLive]
  split <;> rfl

theorem rootListeners_unlinkAll (doc : Document) (nodes : List Handle) :
    (doc.unlinkAll nodes).rootListeners = doc.rootListeners :=
  rootListeners_foldl rootListeners_unlink doc _

/-- A node made below another keeps the root listeners. -/
theorem rootListeners_createBelow (doc : Document) (parent : Handle) (content : Content) :
    (doc.createBelow parent content).2.rootListeners = doc.rootListeners := rfl

/-- Filling a control keeps the root listeners. -/
theorem rootListeners_fillControl (doc : Document) (h : Handle) :
    (doc.fillControl h).rootListeners = doc.rootListeners := by
  unfold fillControl
  split
  · split
    · split
      · split
        · rfl
        · exact rootListeners_createBelow _ _ _
      · split
        · dsimp only
          simp only [rootListeners_createBelow]
        · rfl
    · rfl
  · rfl

theorem rootListeners_enter (doc : Document) (h : Handle) :
    (doc.enter h).rootListeners = doc.rootListeners := by
  unfold enter
  rw [rootListeners_foldl rootListeners_fillControl, rootListeners_markLive]

/-- An adoption keeps the root listeners. -/
theorem rootListeners_adopt (parent : Handle) (doc : Document) (child : Handle) :
    (adopt parent doc child).rootListeners = doc.rootListeners := by
  have hentered : (if doc.live parent ≠ doc.live child then
        (doc.update child fun place => { place with parent := some parent }).enter child
      else doc.update child fun place => { place with parent := some parent }).rootListeners =
      doc.rootListeners := by
    split
    · exact rootListeners_enter _ child
    · rfl
  unfold adopt
  cases doc.parent? child with
  | none => exact hentered
  | some p => exact hentered

theorem rootListeners_link (doc : Document) (parent : Handle) (place : List Handle → List Handle)
    (nodes : List Handle) : (doc.link parent place nodes).rootListeners = doc.rootListeners := by
  unfold link
  rw [rootListeners_foldl (rootListeners_adopt parent)]
  rfl

theorem rootListeners_copyEach {copy : Document → Handle → Option (Handle × Document)}
    (hcopy : ∀ doc h c made, copy doc h = some (c, made) → made.rootListeners = doc.rootListeners)
    (doc : Document) (nodes : List Handle) :
    (copyEach copy doc nodes).2.rootListeners = doc.rootListeners := by
  induction nodes generalizing doc with
  | nil => rfl
  | cons h rest ih =>
    rw [copyEach]
    cases hc : copy doc h with
    | none => exact ih doc
    | some made => exact (ih made.2).trans (hcopy doc h made.1 made.2 hc)

/-- The first walk of a copy keeps the root listeners. -/
theorem rootListeners_copyWithin {depth : Nat} {parent : Option Handle} {doc : Document}
    {h copy : Handle} {made : Document} (hc : copyWithin depth parent doc h = some (copy, made)) :
    made.rootListeners = doc.rootListeners := by
  induction depth generalizing parent doc h copy made with
  | zero => cases hc
  | succ depth ih =>
    rw [copyWithin] at hc
    split at hc
    · cases hc
    · rename_i record _
      have hcopy : ∀ before x c after, copyWithin depth (some doc.size) before x = some (c, after) →
          after.rootListeners = before.rootListeners := fun _ _ _ _ hmade => ih hmade
      cases hc
      exact rootListeners_copyEach hcopy (doc.pushRecord ⟨record.data, parent, [], false⟩)
        record.place.children

/-- The second walk of a copy keeps the root listeners. -/
theorem rootListeners_copyMarkers (depth : Nat) (doc : Document) (source copy : Handle) :
    (copyMarkers depth doc source copy).rootListeners = doc.rootListeners := by
  induction depth generalizing doc source copy with
  | zero => rfl
  | succ depth ih =>
    exact rootListeners_foldl (fun doc (pair : Handle × Handle) => ih doc pair.1 pair.2)
      (doc.carryMarkers source copy) _

/-! ## Operations -/

/-- The operation leaves the root listeners alone. -/
def KeepsListeners {α : Type} (change : Change α) : Prop :=
  ∀ doc, (left (change doc)).rootListeners = doc.rootListeners

/-- Steps that keep the root listeners keep them in sequence. -/
theorem keepsListeners_bind {α β : Type} {first : Change α} {next : α → Change β}
    (h : KeepsListeners first) (h' : ∀ a, KeepsListeners (next a)) :
    KeepsListeners (first >>= next) := by
  intro doc
  have hfirst := h doc
  rw [run_bind]
  cases hr : first doc with
  | ok a doc' =>
    rw [hr] at hfirst
    exact (h' a doc').trans hfirst
  | error e doc' =>
    rw [hr] at hfirst
    exact hfirst

theorem keepsListeners_check {α : Type} (test : Document → Except DomError α) :
    KeepsListeners (check test) := by
  intro doc
  unfold check
  cases test doc <;> rfl

theorem keepsListeners_prepare (parent : Handle) (nodes : List Handle) :
    KeepsListeners (prepare parent nodes) := by
  intro doc
  unfold prepare
  cases doc.movable parent nodes with
  | error e => rfl
  | ok moved => exact rootListeners_unlinkAll doc moved

theorem keepsListeners_linkBefore (anchor : Handle) (nodes : List Handle) :
    KeepsListeners (linkBefore anchor nodes) := by
  intro doc
  unfold linkBefore
  cases doc.parent? anchor with
  | none => rfl
  | some parent =>
    dsimp only
    split
    · exact rootListeners_link doc parent _ nodes
    · rfl

theorem keepsListeners_linkLast (parent : Handle) (nodes : List Handle) :
    KeepsListeners (linkLast parent nodes) := by
  intro doc
  exact rootListeners_link doc parent (· ++ nodes) nodes

/-- Appending children keeps the root listeners. -/
theorem keepsListeners_appendChildren (parent : Handle) (nodes : List Handle) :
    KeepsListeners (appendChildren parent nodes) :=
  keepsListeners_bind (keepsListeners_prepare parent nodes) fun moved =>
    keepsListeners_linkLast parent moved

theorem keepsListeners_insertBefore (reference : Handle) (nodes : List Handle) :
    KeepsListeners (insertBefore reference nodes) :=
  keepsListeners_bind (keepsListeners_check _) fun parent =>
    keepsListeners_bind (keepsListeners_prepare parent nodes) fun moved =>
      keepsListeners_linkBefore reference moved

theorem keepsListeners_insertAfter (reference : Handle) (nodes : List Handle) :
    KeepsListeners (insertAfter reference nodes) := by
  apply keepsListeners_bind (keepsListeners_check _)
  intro parent
  apply keepsListeners_bind (keepsListeners_prepare parent nodes)
  intro moved doc
  have hget : (get : Change Document) doc = .ok doc doc := rfl
  rw [run_bind_of_ok hget]
  cases doc.nextSibling? parent reference with
  | none => exact keepsListeners_linkLast parent moved doc
  | some next => exact keepsListeners_linkBefore next moved doc

theorem keepsListeners_replaceWith (old : Handle) (nodes : List Handle) :
    KeepsListeners (replaceWith old nodes) :=
  keepsListeners_bind (keepsListeners_check _) fun parent =>
    keepsListeners_bind (keepsListeners_prepare parent nodes) fun moved =>
      keepsListeners_bind (keepsListeners_linkBefore old moved) fun _ doc =>
        rootListeners_unlink doc old

theorem keepsListeners_detach (h : Handle) : KeepsListeners (detach h) := by
  intro doc
  unfold detach
  split
  · split
    · exact rootListeners_unlink doc h
    · rfl
  · rfl

/-- Children that are replaced by a text keep the root listeners. -/
theorem rootListeners_replaceChildren (doc : Document) (h : Handle) (text : String) :
    (doc.replaceChildren h text).rootListeners = doc.rootListeners := by
  have hempty := rootListeners_foldl rootListeners_unlink doc (doc.children h)
  unfold replaceChildren
  dsimp only
  split
  · exact hempty
  · exact (rootListeners_link _ h _ _).trans hempty

theorem keepsListeners_setText (h : Handle) (text : String) : KeepsListeners (setText h text) := by
  intro doc
  unfold setText
  cases doc.kindOf h with
  | error e => rfl
  | ok kind =>
    cases kind with
    | placeholder | comment | text => rfl
    | document | fragment | element => exact rootListeners_replaceChildren doc h text

theorem keepsListeners_setAttribute (h : Handle) (name : String) (space : Option String)
    (value : String) : KeepsListeners (setAttribute h name space value) := by
  intro doc
  unfold setAttribute
  split
  · rfl
  · split <;> rfl

theorem keepsListeners_removeAttribute (h : Handle) (name : String) (space : Option String) :
    KeepsListeners (removeAttribute h name space) := by
  intro doc
  unfold removeAttribute
  split
  · rfl
  · split
    · split <;> rfl
    · rfl

/-- A copy keeps the root listeners. -/
theorem keepsListeners_deepClone (h : Handle) : KeepsListeners (deepClone h) := by
  intro doc
  unfold deepClone
  cases hc : copyWithin doc.size none doc h with
  | none => rfl
  | some made =>
    exact (rootListeners_copyMarkers doc.size made.2 h made.1).trans (rootListeners_copyWithin hc)

end PageHost.Document
