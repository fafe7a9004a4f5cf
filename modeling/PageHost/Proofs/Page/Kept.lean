import PageHost.Page
import PageHost.Proofs.Bindings.Sound
import PageHost.Proofs.Document.Descent
import PageHost.Proofs.Document.Listeners
import PageHost.Proofs.Document.Operations
/-!
# Steps of a page

`Kept` says what most steps leave as it was: the tree stays in order and loses no
node, bound ids stay bound to their nodes, and the delegation is not touched. It
holds of every edit that neither inserts nodes nor releases ids, and it holds
where such an edit fails.
-/

namespace PageHost.Page

/-- The links of the document are in order, and the nodes that are bound or on
the stack exist. -/
structure WellFormed (page : Page) : Prop where
  tree : page.document.Treelike
  rooted : Document.root < page.document.size
  bound : ∀ id node, page.bindings.lookup? id = some node → node < page.document.size
  stacked : ∀ slot ∈ page.operands.slots, slot.node < page.document.size

/-- A page stays well formed when its document gets another tree in order and keeps its nodes. -/
theorem WellFormed.withDocument {page : Page} (h : page.WellFormed) {doc : Document}
    (ht : doc.Treelike) (hs : page.document.size ≤ doc.size) :
    WellFormed { page with document := doc } where
  tree := ht
  rooted := Nat.lt_of_lt_of_le h.rooted hs
  bound id node hl := Nat.lt_of_lt_of_le (h.bound id node hl) hs
  stacked slot hm := Nat.lt_of_lt_of_le (h.stacked slot hm) hs

/-- The page came from a well-formed `start` without the loss of a node. -/
def Evolves (start page : Page) : Prop :=
  start.WellFormed → page.WellFormed ∧ start.document.Advances page.document

/-- A page that stays as it is evolves. -/
theorem Evolves.refl (page : Page) : Evolves page page := fun h => ⟨h, .refl h.tree⟩

/-- Two evolutions are one. -/
theorem Evolves.trans {a b c : Page} (h : Evolves a b) (h' : Evolves b c) : Evolves a c := by
  intro ha
  obtain ⟨hb, hab⟩ := h ha
  obtain ⟨hc, hbc⟩ := h' hb
  exact ⟨hc, hab.trans hbc⟩

/-- The page came from `start` without the loss of a node, of a binding or of a registration. -/
structure Kept (start page : Page) : Prop where
  evolves : Evolves start page
  sound : start.bindings.Sound → page.bindings.Sound
  lookup : ∀ id node, start.bindings.lookup? id = some node →
    page.bindings.lookup? id = some node
  delegation : page.delegation = start.delegation
  listeners : page.document.rootListeners = start.document.rootListeners

/-- Besides, the node exists. -/
structure Gives (start : Page) (node : Handle) (page : Page) : Prop where
  kept : Kept start page
  exist : start.WellFormed → node < page.document.size

theorem Kept.refl (page : Page) : Kept page page :=
  ⟨.refl page, id, fun _ _ => id, rfl, rfl⟩

section Steps

variable {start : Page}

/-! ## Steps on the document -/

/-- A page is kept when its document advances and keeps its root listeners. -/
theorem Kept.withDocument {page : Page} (h : Kept start page) {doc : Document}
    (hd : page.document.Treelike → page.document.Advances doc)
    (hl : doc.rootListeners = page.document.rootListeners) :
    Kept start { page with document := doc } := by
  refine ⟨h.evolves.trans fun hw => ?_, h.sound, h.lookup, h.delegation, hl.trans h.listeners⟩
  have ha := hd hw.tree
  exact ⟨hw.withDocument ha.treelike ha.size_le, ha⟩

/-- An operation that loses no node. -/
theorem ensures_onDocument {α : Type} {change : Document.Change α}
    (hd : ∀ doc : Document, doc.Treelike → doc.Advances (left (change doc)))
    (hl : Document.KeepsListeners change) :
    Ensures (Kept start) (onDocument change) (fun _ => Kept start) (Kept start) := by
  intro page h
  have hkept := h.withDocument (hd page.document) (hl page.document)
  unfold onDocument
  cases hc : change page.document with
  | ok a doc =>
    rw [hc] at hkept
    exact hkept
  | error e doc =>
    rw [hc] at hkept
    exact hkept

/-- Making a node gives one that exists. -/
theorem ensures_makeNode (content : Content) :
    Ensures (Kept start) (makeNode fun doc => doc.create content) (Gives start) (Kept start) := by
  intro page h
  refine ⟨h.withDocument (fun ht => Document.advances_create ht content) rfl, fun _ => ?_⟩
  show page.document.size < (page.document.push _).size
  rw [Document.size_push]
  exact Nat.lt_succ_self _

/-! ## Bindings and operands -/

/-- Binding an id on a page, by what it comes to for the bindings. -/
theorem bind_eq (page : Page) (id : NodeId) (node : Handle) :
    bind id node page = match page.bindings.bind id node with
      | .error e => .error e page
      | .ok table => .ok () { page with bindings := table } := by
  rw [bind, onBindings, Bindings.bindInPlace_eq]
  cases page.bindings.bind id node <;> rfl

/-- Moving an id on a page, by what it comes to for the bindings. -/
theorem rebind_eq (page : Page) (id : NodeId) (node : Handle) :
    onBindings (Bindings.rebindInPlace id node) page = match page.bindings.rebind id node with
      | .error e => .error e page
      | .ok (previous, table) => .ok previous { page with bindings := table } := by
  rw [onBindings, Bindings.rebindInPlace_eq]
  cases page.bindings.rebind id node <;> rfl

/-- Binding an id keeps the node that was given. -/
theorem ensures_bindId (id : NodeId) (node : Handle) :
    Ensures (Gives start node) (bind id node) (fun _ => Gives start node) (Kept start) := by
  intro page h
  rw [bind_eq]
  cases hb : page.bindings.bind id node with
  | error e => exact h.kept
  | ok table =>
    obtain ⟨-, hfree, rfl⟩ := Bindings.bind_ok hb
    refine ⟨⟨?_, ?_, ?_, h.kept.delegation, h.kept.listeners⟩, h.exist⟩
    · intro hs
      obtain ⟨hw, ha⟩ := h.kept.evolves hs
      refine ⟨⟨hw.tree, hw.rooted, ?_, hw.stacked⟩, ha⟩
      intro other named hl
      replace hl : (page.bindings.assign id node).lookup? other = some named := hl
      rw [Bindings.lookup?_assign] at hl
      split at hl
      · cases hl
        exact h.exist hs
      · exact hw.bound other named hl
    · exact fun hs => Bindings.sound_bind (h.kept.sound hs) hb
    · intro other named hl
      have hkept := h.kept.lookup other named hl
      have hne : id ≠ other := by
        rintro rfl
        rw [hfree] at hkept
        cases hkept
      show (page.bindings.assign id node).lookup? other = some named
      rw [Bindings.lookup?_assign, if_neg hne, hkept]

/-- Another stack of existing nodes. -/
theorem Kept.withOperands {page : Page} (h : Kept start page) {operands : Operands}
    (ho : start.WellFormed → ∀ slot ∈ operands.slots, slot.node < page.document.size) :
    Kept start { page with operands := operands } := by
  refine ⟨fun hs => ?_, h.sound, h.lookup, h.delegation, h.listeners⟩
  obtain ⟨hw, ha⟩ := h.evolves hs
  exact ⟨⟨hw.tree, hw.rooted, hw.bound, ho hs⟩, ha⟩

/-- Pushing a given node keeps the page. -/
theorem ensures_push (node : Handle) :
    Ensures (Gives start node) (push node) (fun _ => Kept start) (Kept start) := by
  intro page h
  apply h.kept.withOperands
  intro hs slot hm
  rcases List.mem_cons.mp hm with rfl | hm
  · exact h.exist hs
  · exact (h.kept.evolves hs).1.stacked slot hm

theorem ensures_bindAndPush (id : NodeId) (node : Handle) :
    Ensures (Gives start node) (bindAndPush id node) (fun _ => Kept start) (Kept start) :=
  ensures_bind (ensures_bindId id node) fun _ => ensures_push node

/-- A node that is made or found is bound to an id and put on the stack. -/
theorem ensures_bound {first : Step Handle}
    (h : Ensures (Kept start) first (Gives start) (Kept start)) (id : NodeId) (tally : Tally) :
    Ensures (Kept start) (do
      let node ← first
      bindAndPush id node
      return tally) (fun _ => Kept start) (Kept start) := by
  apply ensures_bind h
  intro node
  apply ensures_bind (ensures_bindAndPush id node)
  exact fun _ => ensures_pure fun _ hkept => hkept

/-- What is taken off the stack, and what stays. -/
theorem popMany_ok {stack rest : Operands} {count : Nat} {nodes : List Handle}
    (h : stack.popMany count = .ok (nodes, rest)) :
    nodes = ((stack.slots.take count).map (·.node)).reverse ∧
      rest = { stack with slots := stack.slots.drop count } := by
  unfold Operands.popMany at h
  split at h
  · cases h
  · cases h
    exact ⟨rfl, rfl⟩

theorem ensures_popMany (count : Nat) :
    Ensures (Kept start) (popMany count) (fun _ => Kept start) (Kept start) := by
  intro page h
  unfold popMany
  cases hp : page.operands.popMany count with
  | error e => exact h
  | ok result =>
    obtain ⟨nodes, operands⟩ := result
    obtain ⟨-, rfl⟩ := popMany_ok hp
    apply h.withOperands
    intro hs slot hm
    exact (h.evolves hs).1.stacked slot (List.mem_of_mem_drop hm)

/-! ## Finding a node -/

/-- A lookup gives a node that exists. -/
theorem ensures_lookup (id : NodeId) :
    Ensures (Kept start) (lookup id) (Gives start) (Kept start) := by
  intro page h
  unfold lookup Bindings.lookup
  cases hl : page.bindings.lookup? id with
  | none => exact h
  | some node => exact ⟨h, fun hs => (h.evolves hs).1.bound id node hl⟩

theorem ensures_top : Ensures (Kept start) top (Gives start) (Kept start) := by
  intro page h
  unfold top Operands.top
  cases hslots : page.operands.slots with
  | nil => exact h
  | cons slot rest =>
    refine ⟨h, fun hs => (h.evolves hs).1.stacked slot ?_⟩
    rw [hslots]
    exact List.mem_cons_self

theorem ensures_target (id : NodeId) :
    Ensures (Kept start) (target id) (Gives start) (Kept start) := by
  unfold target
  split
  · exact ensures_top
  · exact ensures_lookup id

/-- Child positions lead from an existing node to an existing node. -/
theorem lt_size_of_atPath {doc : Document} (ht : doc.Treelike) {h node : Handle} {path : List Nat}
    (hs : h < doc.size) (hp : doc.atPath h path = some node) : node < doc.size := by
  induction path generalizing h with
  | nil =>
    cases hp
    exact hs
  | cons i rest ih =>
    rw [Document.atPath] at hp
    obtain ⟨child, hc, hrest⟩ := Option.bind_eq_some_iff.mp hp
    exact ih (ht.child_lt_size (List.mem_of_getElem? hc)) hrest

theorem ensures_atPath (path : List Nat) :
    Ensures (Kept start) (atPath path) (Gives start) (Kept start) := by
  unfold atPath
  apply ensures_bind ensures_top
  intro first page h
  dsimp only
  cases hp : page.document.atPath first path with
  | none => exact h.kept
  | some node =>
    exact ⟨h.kept, fun hs => lt_size_of_atPath (h.kept.evolves hs).1.tree (h.exist hs) hp⟩

/-- A payload gives a node that exists. -/
theorem ensures_seed (value : Payload) :
    Ensures (Kept start) (seed value) (Gives start) (Kept start) := by
  intro page h
  unfold seed
  cases value with
  | handle node =>
    dsimp only
    by_cases hc : page.document.contains node = true
    · rw [if_pos hc]
      exact ⟨h, fun _ => (Document.contains_iff _ _).mp hc⟩
    · rw [if_neg hc]
      exact h
  | text id =>
    dsimp only
    cases hf : page.document.elementById id with
    | none => exact h
    | some node =>
      refine ⟨h, fun hs => ?_⟩
      obtain ⟨hw, -⟩ := h.evolves hs
      have hm := List.mem_of_find?_eq_some hf
      rw [Document.mem_descendants_iff hw.tree hw.rooted] at hm
      exact hm.lt_size hw.tree hw.rooted
  | _ => exact h

/-- A copy of a child of a template is a fresh node. -/
theorem ensures_stampRoot (name : String) (index : Nat) :
    Ensures (Kept start) (stampRoot name index) (Gives start) (Kept start) := by
  intro page h
  unfold stampRoot Templates.stampRoot
  cases page.templates.find name with
  | error e => exact h
  | ok template =>
    dsimp only
    cases (page.document.children template.fragment)[index]? with
    | none => exact h
    | some original =>
      dsimp only
      have hkept := h.withDocument
        (fun ht => Document.advances_deepClone ht original)
        (Document.keepsListeners_deepClone original page.document)
      unfold Templates.copyNode
      cases hc : Document.deepClone original page.document with
      | error e doc =>
        rw [hc] at hkept
        exact hkept
      | ok copy doc =>
        rw [hc] at hkept
        refine ⟨hkept, fun hs => ?_⟩
        have hp := Document.planted_deepClone (h.evolves hs).1.tree hc
        exact (hp.fresh copy (List.mem_singleton.mpr rfl)).2.1

/-! ## Attributes -/

/-- A change of a given node keeps the page. -/
theorem ensures_onExisting {α : Type} {change : Document.Change α} (node : Handle)
    (hd : ∀ doc : Document, doc.Treelike → doc.Advances (left (change doc)))
    (hl : Document.KeepsListeners change) :
    Ensures (Gives start node) (onDocument change) (fun _ => Kept start) (Kept start) :=
  (ensures_onDocument hd hl).mono (fun _ h => h.kept) (fun _ _ h => h) fun _ h => h

/-- Setting an attribute keeps the page. -/
theorem ensures_setAttribute (id : NodeId) (name : String) (value : Payload)
    (space : Option String) :
    Ensures (Kept start) (setAttribute id name value space) (fun _ => Kept start) (Kept start) := by
  unfold setAttribute
  apply ensures_bind (ensures_target id)
  intro node page h
  dsimp only
  cases value.attributeText with
  | error e => exact h.kept
  | ok written =>
    cases written with
    | some text =>
      exact ensures_onExisting node
        (fun doc ht => Document.advances_setAttribute ht node name space text)
        (Document.keepsListeners_setAttribute node name space text) page h
    | none =>
      have hrun := ensures_onExisting node
        (fun doc ht => Document.advances_removeAttribute ht node name space)
        (Document.keepsListeners_removeAttribute node name space) page h
      dsimp only
      cases hr : onDocument (Document.removeAttribute node name space) page with
      | ok removed page' =>
        rw [hr] at hrun
        exact hrun
      | error e page' =>
        rw [hr] at hrun
        exact hrun

end Steps

/-! ## Edits -/

end Page

/-- An edit that makes nodes, looks nodes up or changes one node, and neither
inserts nodes nor releases ids nor registers listeners. -/
def Edit.isQuiet : Edit → Bool
  | .createElement .. | .createElementNs .. | .createTextNode .. | .createPlaceholder ..
  | .pushRoot .. | .popRoot | .setText .. | .setAttribute .. | .removeAttribute ..
  | .loadTemplate .. | .assignId .. => true
  | _ => false

namespace Page

/-- A quiet edit loses nothing, carried out or not. -/
theorem ensures_apply_quiet (start : Page) {edit : Edit} (hq : edit.isQuiet = true) :
    Ensures (Kept start) (apply edit) (fun _ => Kept start) (Kept start) := by
  have done : ∀ tally : Tally, Ensures (Kept start) (pure tally : Step Tally)
      (fun _ => Kept start) (Kept start) := fun tally => ensures_pure fun _ h => h
  cases edit with
  | createElement tag id => exact ensures_bound (ensures_makeNode _) id .creation
  | createElementNs tag id space => exact ensures_bound (ensures_makeNode _) id .creation
  | createTextNode text id => exact ensures_bound (ensures_makeNode _) id .creation
  | createPlaceholder id => exact ensures_bound (ensures_makeNode _) id .creation
  | pushRoot id =>
    apply ensures_bind (ensures_lookup id)
    intro node
    exact ensures_bind (ensures_push node) fun _ => done _
  | popRoot => exact ensures_bind (ensures_popMany 1) fun _ => done _
  | setText id text =>
    apply ensures_bind (ensures_target id)
    intro node
    apply ensures_bind (ensures_onExisting node
      (fun doc ht => Document.advances_setText ht node text)
      (Document.keepsListeners_setText node text))
    exact fun _ => done _
  | setAttribute id name value space =>
    exact ensures_bind (ensures_setAttribute id name value space) fun _ => done _
  | removeAttribute id name space =>
    apply ensures_bind (ensures_target id)
    intro node
    apply ensures_bind (ensures_onExisting node
      (fun doc ht => Document.advances_removeAttribute ht node name space)
      (Document.keepsListeners_removeAttribute node name space))
    exact fun _ => done _
  | loadTemplate name index id => exact ensures_bound (ensures_stampRoot name index) id .creation
  | assignId path id =>
    apply ensures_bind (ensures_atPath path)
    intro node
    apply ensures_bind (ensures_bindId id node)
    exact fun _ => ensures_pure fun _ h => h.kept
  | setNode _ _ | appendChildren _ | replaceWith _ _ | insertAfter _ _ | insertBefore _ _
  | remove _ | newEventListener _ _ _ | removeEventListener _ _ | saveTemplate _ _
  | replacePlaceholder _ _ => cases hq

/-- Every quiet edit keeps the page. -/
theorem kept_apply (page : Page) {edit : Edit} (hq : edit.isQuiet = true) :
    Kept page (left (apply edit page)) := (ensures_apply_quiet page hq).left (.refl page)

end PageHost.Page
