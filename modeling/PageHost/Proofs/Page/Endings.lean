import PageHost.Proofs.Page.Release
/-!
# How edits end

`Ends` says once what each edit can do: with which page it stops when something
is refused, and which page it leaves when it is carried out, together with what
was found on the way. Whatever all edits keep is then proved by looking through
its cases, and no such proof has to follow the steps of an edit again.
-/

namespace PageHost

/-- The error concerns a node itself and not its place in the tree. -/
def DomError.isLocal : DomError → Bool
  | .missingNode _ | .wrongKind _ => true
  | _ => false

namespace Document

/-! ## Operations that are refused -/

/-- Where the operation fails, it does so because of a node itself and changes nothing. -/
def Declines {α : Type} (change : Change α) : Prop :=
  ∀ doc e after, change doc = .error e after → after = doc ∧ e.isLocal = true

/-- Setting a text changes the document or declines. -/
theorem declines_setText (h : Handle) (text : String) : Declines (setText h text) := by
  intro doc e after hr
  unfold setText kindOf at hr
  cases hk : doc.kind? h with
  | none =>
    rw [hk] at hr
    cases hr
    exact ⟨rfl, rfl⟩
  | some kind =>
    rw [hk] at hr
    cases kind with
    | placeholder =>
      cases hr
      exact ⟨rfl, rfl⟩
    | _ => cases hr

theorem declines_setAttribute (h : Handle) (name : String) (space : Option String)
    (value : String) : Declines (setAttribute h name space value) := by
  intro doc e after hr
  unfold setAttribute at hr
  split at hr
  · cases hr
    exact ⟨rfl, rfl⟩
  · split at hr
    · cases hr
    · cases hr
      exact ⟨rfl, rfl⟩

theorem declines_removeAttribute (h : Handle) (name : String) (space : Option String) :
    Declines (removeAttribute h name space) := by
  intro doc e after hr
  unfold removeAttribute at hr
  split at hr
  · cases hr
    exact ⟨rfl, rfl⟩
  · split at hr
    · split at hr <;> cases hr
    · cases hr
      exact ⟨rfl, rfl⟩

theorem declines_detach (h : Handle) : Declines (detach h) := by
  intro doc e after hr
  unfold detach at hr
  split at hr
  · split at hr <;> cases hr
  · cases hr
    exact ⟨rfl, rfl⟩

theorem declines_deepClone (h : Handle) : Declines (deepClone h) := by
  intro doc e after hr
  unfold deepClone at hr
  split at hr
  · cases hr
    exact ⟨rfl, rfl⟩
  · cases hr

/-! ## Making and rewriting a node -/

/-- The ways in which a node is made that gets an id. -/
inductive Makes (doc : Document) : Handle → Document → Prop where
  | created (content : Content) : Makes doc doc.size (doc.create content).2
  | copied {original copy : Handle} {doc' : Document} :
      deepClone original doc = .ok copy doc' → Makes doc copy doc'

/-- The ways in which an edit writes to one node. -/
inductive Rewrites (node : Handle) (doc : Document) : Document → Prop where
  | text {doc' : Document} (text : String) :
      setText node text doc = .ok () doc' → Rewrites node doc doc'
  | set {doc' : Document} (name : String) (space : Option String) (value : String) :
      setAttribute node name space value doc = .ok () doc' → Rewrites node doc doc'
  | drop {doc' : Document} (name : String) (space : Option String) (removed : Bool) :
      removeAttribute node name space doc = .ok removed doc' → Rewrites node doc doc'

/-- What holds of the document that each writing operation leaves, carried out or not, holds of a
rewritten one. -/
theorem Rewrites.of_left {P : Document → Prop} {node : Handle} {doc doc' : Document}
    (hw : doc.Rewrites node doc') (htext : ∀ text, P (left (setText node text doc)))
    (hset : ∀ name space value, P (left (setAttribute node name space value doc)))
    (hdrop : ∀ name space, P (left (removeAttribute node name space doc))) : P doc' := by
  cases hw with
  | text text hr =>
    have h := htext text
    rwa [hr] at h
  | set name space value hr =>
    have h := hset name space value
    rwa [hr] at h
  | drop name space removed hr =>
    have h := hdrop name space
    rwa [hr] at h

end Document

/-- The id of the node that an edit makes. -/
def Edit.createdId? : Edit → Option NodeId
  | .createElement _ id | .createElementNs _ id _ | .createTextNode _ id | .createPlaceholder id
  | .loadTemplate _ _ id => some id
  | _ => none

/-- The id of the node that an edit writes to; 0 stands for the top of the stack. -/
def Edit.writtenId? : Edit → Option NodeId
  | .setText id _ | .setAttribute id _ _ _ | .removeAttribute id _ _ => some id
  | _ => none

/-- The last step of an edit that inserts nodes. -/
def Edit.finish (edit : Edit) (page : Page) : Page :=
  match edit with
  | .appendChildren _ => { page with operands := page.operands.markParent }
  | .replaceWith id _ => (page.release id).2
  | _ => page

namespace Page

/-- The page refers to the node: the stack holds it or an id names it. -/
def Holds (page : Page) (node : Handle) : Prop :=
  (∃ slot ∈ page.operands.slots, slot.node = node) ∨ ∃ id, page.bindings.lookup? id = some node

/-- The node is reached by child positions from the top of the stack. -/
def Leads (page : Page) (path : List Nat) (node : Handle) : Prop :=
  ∃ slot rest, page.operands.slots = slot :: rest ∧
    page.document.atPath slot.node path = some node

/-- Where an edit inserts the nodes that it took off the stack. -/
inductive Places (page : Page) : Edit → Nat → (List Handle → Document.Change Unit) → Prop where
  | append {parent : Handle} (count : Nat) : page.Leads [] parent →
      Places page (.appendChildren count) count (Document.appendChildren parent)
  | replace {old : Handle} (id : NodeId) (count : Nat) : page.bindings.lookup? id = some old →
      Places page (.replaceWith id count) count (Document.replaceWith old)
  | after {reference : Handle} (id : NodeId) (count : Nat) :
      page.bindings.lookup? id = some reference →
      Places page (.insertAfter id count) count (Document.insertAfter reference)
  | before {reference : Handle} (id : NodeId) (count : Nat) :
      page.bindings.lookup? id = some reference →
      Places page (.insertBefore id count) count (Document.insertBefore reference)
  | placeholder {old : Handle} (path : List Nat) (count : Nat) : page.Leads path old →
      Places page (.replacePlaceholder path count) count (Document.replaceWith old)

/-- The page whose operands have moved into the fresh fragment and whose ids below it are
released. -/
def gathered (page : Page) (operands : Operands) (doc : Document) : Page :=
  ({ page with operands := operands, document := doc } : Page).releaseBelow page.document.size

/-- The ways in which an edit can end. -/
inductive Ends (page : Page) : Edit → EStateM.Result EditError Page Tally → Prop where
  /-- Something is refused before anything has changed. -/
  | refused (edit : Edit) (e : EditError) : (∀ name, e ≠ .templateRedefinition name) →
      Ends page edit (.error e page)
  /-- A node is made, but its id cannot be bound. -/
  | unnamed {edit : Edit} {id : NodeId} {node : Handle} {doc : Document} {e : EditError} :
      edit.createdId? = some id → page.document.Makes node doc →
      page.bindings.bind id node = .error e →
      Ends page edit (.error e { page with document := doc })
  /-- A node is made, bound and put on the stack. -/
  | created {edit : Edit} {id : NodeId} {node : Handle} {doc : Document} :
      edit.createdId? = some id → page.document.Makes node doc →
      id ≠ reservedId → page.bindings.lookup? id = none →
      Ends page edit (.ok .creation
        { page with
          document := doc
          bindings := page.bindings.assign id node
          operands := page.operands.push node })
  /-- A free id is bound to a node below the top of the stack. -/
  | assigned {node : Handle} (path : List Nat) (id : NodeId) : page.Leads path node →
      id ≠ reservedId → page.bindings.lookup? id = none →
      Ends page (.assignId path id)
        (.ok .plain { page with bindings := page.bindings.assign id node })
  /-- A free id is bound to a node outside the templates. -/
  | seeded {node : Handle} (id : NodeId) (value : Payload) :
      page.templates.owns page.document node = false →
      id ≠ reservedId → page.bindings.lookup? id = none →
      Ends page (.setNode id value)
        (.ok .plain { page with bindings := page.bindings.assign id node })
  /-- A bound id is moved to a node outside the templates. -/
  | moved {node previous : Handle} {table : Bindings} (id : NodeId) (value : Payload) :
      page.templates.owns page.document node = false →
      page.bindings.rebind id node = .ok (previous, table) →
      Ends page (.setNode id value)
        (.ok .plain (if previous = node then { page with bindings := table }
          else { page with bindings := table }.forget id))
  | pushed {node : Handle} (id : NodeId) : page.bindings.lookup? id = some node →
      Ends page (.pushRoot id) (.ok .plain { page with operands := page.operands.push node })
  | popped {nodes : List Handle} {operands : Operands} :
      page.operands.popMany 1 = .ok (nodes, operands) →
      Ends page .popRoot (.ok .plain { page with operands := operands })
  | written {edit : Edit} {id : NodeId} {node : Handle} {doc : Document} :
      edit.writtenId? = some id → page.Holds node → page.document.Rewrites node doc →
      Ends page edit (.ok .plain { page with document := doc })
  /-- There is no place for the nodes that were taken off the stack. -/
  | unplaced {edit : Edit} {count : Nat} {nodes : List Handle} {operands : Operands}
      (e : EditError) : (∀ name, e ≠ .templateRedefinition name) →
      edit.operandCount? = some count → page.operands.popMany count = .ok (nodes, operands) →
      Ends page edit (.error e { page with operands := operands })
  /-- The insertion fails. -/
  | stopped {edit : Edit} {count : Nat} {change : List Handle → Document.Change Unit}
      {nodes : List Handle} {operands : Operands} {e : DomError} {doc : Document} :
      page.operands.popMany count = .ok (nodes, operands) →
      Places { page with operands := operands } edit count change →
      change nodes page.document = .error e doc →
      Ends page edit (.error (.dom e) { page with operands := operands, document := doc })
  | inserted {edit : Edit} {count : Nat} {change : List Handle → Document.Change Unit}
      {nodes : List Handle} {operands : Operands} {doc : Document} (tally : Tally) :
      page.operands.popMany count = .ok (nodes, operands) →
      Places { page with operands := operands } edit count change →
      change nodes page.document = .ok () doc →
      Ends page edit (.ok tally (edit.finish { page with operands := operands, document := doc }))
  /-- Removing an unbound id does nothing. -/
  | absent (id : NodeId) : page.bindings.lookup? id = none →
      Ends page (.remove id) (.ok .plain page)
  | removed {node : Handle} {found : Bool} {doc : Document} (id : NodeId) (tally : Tally) :
      page.bindings.lookup? id = some node →
      Document.detach node (page.release id).2.document = .ok found doc →
      Ends page (.remove id) (.ok tally { (page.release id).2 with document := doc })
  /-- A bound node is missing; that is on no page that is in order. -/
  | missing {node : Handle} {e : DomError} {doc : Document} (id : NodeId) :
      page.bindings.lookup? id = some node →
      Document.detach node (page.release id).2.document = .error e doc →
      Ends page (.remove id) (.error (.dom e) { (page.release id).2 with document := doc })
  | listened (name : String) (id : NodeId) (handler : Payload) :
      page.bindings.contains id = true →
      Ends page (.newEventListener name id handler)
        (.ok .plain (page.withListener id name handler))
  | unlistened (id : NodeId) (name : String) :
      Ends page (.removeEventListener id name) (.ok .plain
        { page with
          delegation := (page.delegation.unlisten page.document id name).2.1
          document := (page.delegation.unlisten page.document id name).2.2 })
  /-- The operands cannot move into the fragment of a template. -/
  | ungathered {nodes : List Handle} {operands : Operands} {e : DomError} {doc : Document}
      (name : String) (count : Nat) :
      page.operands.popMany count = .ok (nodes, operands) →
      Document.appendChildren page.document.size nodes page.withFragment = .error e doc →
      Ends page (.saveTemplate name count)
        (.error (.dom e) { page with operands := operands, document := doc })
  /-- The fragment is made, but another template has the name. -/
  | taken {nodes : List Handle} {operands : Operands} {doc : Document} {existing : Template}
      (name : String) (count : Nat) :
      page.operands.popMany count = .ok (nodes, operands) →
      Document.appendChildren page.document.size nodes page.withFragment = .ok () doc →
      Keyed.get? page.templates.entries name = some existing →
      Ends page (.saveTemplate name count)
        (.error (.templateRedefinition name) (page.gathered operands doc))
  /-- The fragment is made, and the template of that name has the same structure. -/
  | known {nodes : List Handle} {operands : Operands} {doc : Document} {existing : Template}
      (name : String) (count : Nat) :
      page.operands.popMany count = .ok (nodes, operands) →
      Document.appendChildren page.document.size nodes page.withFragment = .ok () doc →
      Keyed.get? page.templates.entries name = some existing →
      Ends page (.saveTemplate name count) (.ok .plain (page.gathered operands doc))
  /-- The fragment is made and registered under a new name. -/
  | registered {nodes : List Handle} {operands : Operands} {doc : Document} (name : String)
      (count : Nat) (slots : List (List Nat)) :
      page.operands.popMany count = .ok (nodes, operands) →
      Document.appendChildren page.document.size nodes page.withFragment = .ok () doc →
      Keyed.get? page.templates.entries name = none →
      Ends page (.saveTemplate name count) (.ok .plain
        { page.gathered operands doc with
          templates := ⟨Keyed.set page.templates.entries name ⟨page.document.size, slots⟩⟩ })

/-- Forgetting ids leaves the templates as they are. -/
theorem templates_forgetAll (page : Page) (ids : List NodeId) :
    (page.forgetAll ids).templates = page.templates := by
  induction ids generalizing page with
  | nil => rfl
  | cons id rest ih => exact ih (page.forget id)

/-! ## The steps of an edit -/

/-- The step is refused and changes nothing. -/
def Refuses {α : Type} (step : Step α) (page : Page) : Prop :=
  ∃ e, step page = .error e page ∧ ∀ name, e ≠ .templateRedefinition name

/-- A sequence refuses when its first step does. -/
theorem Refuses.bind {α β : Type} {first : Step α} {page : Page} (h : Refuses first page)
    (next : α → Step β) : Refuses (first >>= next) page := by
  obtain ⟨e, he, hne⟩ := h
  exact ⟨e, run_bind_of_error he next, hne⟩

/-- An edit that refuses has ended as an edit may. -/
theorem Refuses.ends {page : Page} {edit : Edit} (h : Refuses (apply edit) page) :
    Ends page edit (apply edit page) := by
  obtain ⟨e, he, hne⟩ := h
  rw [he]
  exact .refused edit e hne

theorem top_of_nil {page : Page} (hs : page.operands.slots = []) :
    top page = .error (.stackUnderflow 1 0) page := by
  unfold top Operands.top
  rw [hs]

theorem top_of_slots {page : Page} {slot : Operand} {rest : List Operand}
    (hs : page.operands.slots = slot :: rest) : top page = .ok slot.node page := by
  unfold top Operands.top
  rw [hs]

/-- A path starts at the top of the stack. -/
theorem atPath_of_top {page : Page} {start : Handle} (h : top page = .ok start page)
    (path : List Nat) :
    atPath path page =
      match page.document.atPath start path with
      | none => .error (.invalidPath path) page
      | some node => .ok node page :=
  run_bind_of_ok h _

/-- What setting the node of an id does once there is a node. -/
theorem setNode_of_seed {page : Page} {value : Payload} {node : Handle}
    (h : seed value page = .ok node page) (id : NodeId) :
    setNode id value page =
      if page.templates.owns page.document node then .error (.templateNode node) page
      else if page.bindings.contains id then
        match page.bindings.rebind id node with
        | .error e => .error e page
        | .ok (previous, table) =>
          .ok () (if previous = node then { page with bindings := table }
            else { page with bindings := table }.forget id)
      else bind id node page := by
  refine (run_bind_of_ok h _).trans ?_
  rw [rebind_eq]
  cases page.bindings.rebind id node <;> rfl

/-- What setting an attribute does once there is a target. -/
theorem setAttribute_of_target {page : Page} {id : NodeId} {node : Handle}
    (h : target id page = .ok node page) (name : String) (value : Payload)
    (space : Option String) :
    setAttribute id name value space page =
      match value.attributeText with
      | .error e => .error e page
      | .ok (some text) => onDocument (Document.setAttribute node name space text) page
      | .ok none =>
        match onDocument (Document.removeAttribute node name space) page with
        | .error e page => .error e page
        | .ok _ page => .ok () page :=
  run_bind_of_ok h _

/-- A payload with a text writes it. -/
theorem apply_setAttribute_of_text {page : Page} {id : NodeId} {node : Handle} {value : Payload}
    {text : String} (h : target id page = .ok node page)
    (ht : value.attributeText = .ok (some text)) (name : String) (space : Option String) :
    apply (.setAttribute id name value space) page =
      (onDocument (Document.setAttribute node name space text) >>= fun _ => pure .plain :
        Step Tally) page := by
  show (setAttribute id name value space >>= fun _ => pure .plain : Step Tally) page = _
  rw [run_bind, run_bind, setAttribute_of_target h, ht]

/-- A payload without a text removes the attribute. -/
theorem apply_setAttribute_of_none {page : Page} {id : NodeId} {node : Handle} {value : Payload}
    (h : target id page = .ok node page) (ht : value.attributeText = .ok none) (name : String)
    (space : Option String) :
    apply (.setAttribute id name value space) page =
      (onDocument (Document.removeAttribute node name space) >>= fun _ => pure .plain :
        Step Tally) page := by
  show (setAttribute id name value space >>= fun _ => pure .plain : Step Tally) page = _
  rw [run_bind, run_bind, setAttribute_of_target h, ht]
  dsimp only
  cases onDocument (Document.removeAttribute node name space) page <;> rfl

section Steps

variable (page : Page)

/-- A lookup refuses or finds the node that the id names. -/
theorem lookup_cases (id : NodeId) : Refuses (lookup id) page ∨
    ∃ node, page.bindings.lookup? id = some node ∧ lookup id page = .ok node page := by
  unfold Refuses lookup Bindings.lookup
  cases page.bindings.lookup? id with
  | none => exact Or.inl ⟨_, rfl, fun _ => nofun⟩
  | some node => exact Or.inr ⟨node, rfl, rfl⟩

theorem top_cases : Refuses top page ∨
    ∃ slot rest, page.operands.slots = slot :: rest ∧ top page = .ok slot.node page := by
  cases hs : page.operands.slots with
  | nil => exact Or.inl ⟨_, top_of_nil hs, fun _ => nofun⟩
  | cons slot rest => exact Or.inr ⟨slot, rest, rfl, top_of_slots hs⟩

theorem target_cases (id : NodeId) : Refuses (target id) page ∨
    ∃ node, page.Holds node ∧ target id page = .ok node page := by
  unfold target
  split
  · rcases top_cases page with h | ⟨slot, rest, hs, h⟩
    · exact Or.inl h
    · refine Or.inr ⟨slot.node, Or.inl ⟨slot, ?_, rfl⟩, h⟩
      rw [hs]
      exact List.mem_cons_self
  · rcases lookup_cases page id with h | ⟨node, hl, h⟩
    · exact Or.inl h
    · exact Or.inr ⟨node, Or.inr ⟨id, hl⟩, h⟩

/-- A path is refused or leads to a node. -/
theorem atPath_cases (path : List Nat) : Refuses (atPath path) page ∨
    ∃ node, page.Leads path node ∧ atPath path page = .ok node page := by
  rcases top_cases page with h | ⟨slot, rest, hs, h⟩
  · exact Or.inl (h.bind _)
  · have hrun := atPath_of_top h path
    unfold Refuses
    cases hp : page.document.atPath slot.node path with
    | none =>
      rw [hp] at hrun
      exact Or.inl ⟨_, hrun, fun _ => nofun⟩
    | some node =>
      rw [hp] at hrun
      exact Or.inr ⟨node, ⟨slot, rest, hs, hp⟩, hrun⟩

/-- A node for a payload is refused or found without a change. -/
theorem seed_cases (value : Payload) : Refuses (seed value) page ∨
    ∃ node, seed value page = .ok node page := by
  unfold Refuses seed
  cases value with
  | handle node =>
    dsimp only
    split
    · exact Or.inr ⟨node, rfl⟩
    · exact Or.inl ⟨_, rfl, fun _ => nofun⟩
  | text id =>
    dsimp only
    cases page.document.elementById id with
    | none => exact Or.inl ⟨_, rfl, fun _ => nofun⟩
    | some node => exact Or.inr ⟨node, rfl⟩
  | _ => exact Or.inl ⟨_, rfl, fun _ => nofun⟩

/-- Operands are refused or taken off. -/
theorem popMany_cases (count : Nat) : Refuses (popMany count) page ∨
    ∃ nodes operands, page.operands.popMany count = .ok (nodes, operands) ∧
      popMany count page = .ok nodes { page with operands := operands } := by
  cases hp : page.operands.popMany count with
  | error e =>
    refine Or.inl ⟨e, popMany_of_error hp, ?_⟩
    rw [popMany_error hp]
    exact fun _ => nofun
  | ok popped => exact Or.inr ⟨popped.1, popped.2, rfl, popMany_of_ok hp⟩

/-- A binding is refused, or the id was free and is assigned. -/
theorem bind_cases (id : NodeId) (node : Handle) :
    (∃ e, page.bindings.bind id node = .error e ∧ bind id node page = .error e page) ∨
    id ≠ reservedId ∧ page.bindings.lookup? id = none ∧
      bind id node page = .ok () { page with bindings := page.bindings.assign id node } := by
  rw [bind_eq]
  cases hb : page.bindings.bind id node with
  | error e => exact Or.inl ⟨e, rfl, rfl⟩
  | ok table =>
    obtain ⟨hid, hfree, rfl⟩ := Bindings.bind_ok hb
    exact Or.inr ⟨hid, hfree, rfl⟩

/-- A free id that is not the reserved one is assigned. -/
theorem bind_of_free (page : Page) {id : NodeId} (hid : id ≠ reservedId)
    (hfree : page.bindings.lookup? id = none) (node : Handle) :
    bind id node page = .ok () { page with bindings := page.bindings.assign id node } := by
  rcases bind_cases page id node with ⟨e, hb, -⟩ | ⟨-, -, hbind⟩
  · rw [Bindings.bind_eq, if_neg hid, hfree] at hb
    cases hb
  · exact hbind

/-- A free id is bound to a node, which goes onto the stack. -/
theorem bindAndPush_of_free (page : Page) {id : NodeId} (hid : id ≠ reservedId)
    (hfree : page.bindings.lookup? id = none) (node : Handle) :
    bindAndPush id node page = .ok ()
      { page with
        bindings := page.bindings.assign id node
        operands := page.operands.push node } :=
  run_bind_of_ok (bind_of_free page hid hfree node) _

/-- A node is made under a free id. -/
theorem make_of_free {page : Page} {id : NodeId} (hid : id ≠ reservedId)
    (hfree : page.bindings.lookup? id = none) (content : Content) :
    (do
      let node ← makeNode fun doc => doc.create content
      bindAndPush id node
      return .creation : Step Tally) page = .ok .creation
        { page with
          document := (page.document.create content).2
          bindings := page.bindings.assign id page.document.size
          operands := page.operands.push page.document.size } := by
  have hmade : makeNode (fun doc => doc.create content) page =
      .ok page.document.size { page with document := (page.document.create content).2 } := rfl
  have hpush : bindAndPush id page.document.size
      { page with document := (page.document.create content).2 } = .ok ()
        { page with
          document := (page.document.create content).2
          bindings := page.bindings.assign id page.document.size
          operands := page.operands.push page.document.size } :=
    bindAndPush_of_free { page with document := (page.document.create content).2 } hid hfree
      page.document.size
  rw [run_bind_of_ok hmade]
  exact run_bind_of_ok hpush _

/-- A stamp is refused or makes a node. -/
theorem stampRoot_cases (name : String) (index : Nat) : Refuses (stampRoot name index) page ∨
    ∃ copy doc, page.document.Makes copy doc ∧
      stampRoot name index page = .ok copy { page with document := doc } := by
  unfold Refuses stampRoot Templates.stampRoot Templates.find
  cases Keyed.get? page.templates.entries name with
  | none => exact Or.inl ⟨_, rfl, fun _ => nofun⟩
  | some template =>
    dsimp only
    cases (page.document.children template.fragment)[index]? with
    | none => exact Or.inl ⟨_, rfl, fun _ => nofun⟩
    | some original =>
      dsimp only [Templates.copyNode]
      cases hc : Document.deepClone original page.document with
      | error e doc =>
        rw [(Document.declines_deepClone original _ e doc hc).1]
        exact Or.inl ⟨_, rfl, fun _ => nofun⟩
      | ok copy doc => exact Or.inr ⟨copy, doc, .copied hc, rfl⟩

end Steps

/-- No binding is refused as a redefined template. -/
theorem bind_error_ne {table : Bindings} {id : NodeId} {node : Handle} {e : EditError}
    (h : table.bind id node = .error e) : ∀ name, e ≠ .templateRedefinition name := by
  rw [Bindings.bind_eq] at h
  split at h
  · cases h
    exact fun _ => nofun
  · split at h
    · cases h
      exact fun _ => nofun
    · cases h

/-! ## Each edit -/

/-- A node is made or the making is refused, and then it is bound and put on the stack. -/
theorem ends_bound {page : Page} {edit : Edit} {id : NodeId} {first : Step Handle}
    (hid : edit.createdId? = some id)
    (hfirst : Refuses first page ∨ ∃ node doc, page.document.Makes node doc ∧
      first page = .ok node { page with document := doc })
    (hrun : apply edit = do
      let node ← first
      bindAndPush id node
      return .creation) : Ends page edit (apply edit page) := by
  rcases hfirst with h | ⟨node, doc, hmade, hok⟩
  · apply Refuses.ends
    rw [hrun]
    exact h.bind _
  · rw [hrun, run_bind_of_ok hok]
    rcases bind_cases { page with document := doc } id node with
      ⟨e, hb, hbind⟩ | ⟨hne, hfree, hbind⟩
    · have hpush : bindAndPush id node { page with document := doc } =
          .error e { page with document := doc } := run_bind_of_error hbind _
      rw [run_bind_of_error hpush]
      exact .unnamed hid hmade hb
    · have hpush : bindAndPush id node { page with document := doc } = .ok ()
          { page with
            document := doc
            bindings := page.bindings.assign id node
            operands := page.operands.push node } := run_bind_of_ok hbind _
      rw [run_bind_of_ok hpush]
      exact .created hid hmade hne hfree

/-- Making a node makes one. -/
theorem makes_node (page : Page) (content : Content) :
    Refuses (makeNode fun doc => doc.create content) page ∨
      ∃ node doc, page.document.Makes node doc ∧
        makeNode (fun doc => doc.create content) page = .ok node { page with document := doc } :=
  Or.inr ⟨_, _, .created content, rfl⟩

/-- Setting the node of an id ends as an edit may. -/
theorem ends_setNode (page : Page) (id : NodeId) (value : Payload) :
    Ends page (.setNode id value) (apply (.setNode id value) page) := by
  show Ends page _ ((setNode id value >>= fun _ => pure .plain : Step Tally) page)
  rcases seed_cases page value with h | ⟨node, hseed⟩
  · exact ((h.bind _).bind _).ends
  · have hset := setNode_of_seed hseed id
    split at hset
    · rw [run_bind_of_error hset]
      exact .refused _ _ fun _ => nofun
    · rename_i howns
      have hfree : page.templates.owns page.document node = false := by simpa using howns
      split at hset
      · cases hr : page.bindings.rebind id node with
        | error e =>
          rw [hr] at hset
          rw [Bindings.rebind_eq] at hr
          split at hr
          · cases hr
            rw [run_bind_of_error hset]
            exact .refused _ _ fun _ => nofun
          · cases hr
        | ok result =>
          obtain ⟨previous, table⟩ := result
          rw [hr] at hset
          rw [run_bind_of_ok hset]
          exact .moved id value hfree hr
      · rcases bind_cases page id node with ⟨e, hb, hbind⟩ | ⟨hne, hnone, hbind⟩
        · rw [run_bind_of_error (hset.trans hbind)]
          exact .refused _ _ (bind_error_ne hb)
        · rw [run_bind_of_ok (hset.trans hbind)]
          exact .seeded id value hfree hne hnone

theorem ends_assignId (page : Page) (path : List Nat) (id : NodeId) :
    Ends page (.assignId path id) (apply (.assignId path id) page) := by
  rcases atPath_cases page path with h | ⟨node, hlead, hok⟩
  · exact (h.bind _).ends
  · rcases bind_cases page id node with ⟨e, hb, hbind⟩ | ⟨hne, hfree, hbind⟩
    · have hrun : apply (.assignId path id) page = .error e page :=
        (run_bind_of_ok hok _).trans (run_bind_of_error hbind _)
      rw [hrun]
      exact .refused _ _ (bind_error_ne hb)
    · have hrun : apply (.assignId path id) page =
          .ok .plain { page with bindings := page.bindings.assign id node } :=
        (run_bind_of_ok hok _).trans (run_bind_of_ok hbind _)
      rw [hrun]
      exact .assigned path id hlead hne hfree

/-- An operation on one node that the page holds, which refuses to change anything or writes
to the node. -/
theorem ends_written {page : Page} {edit : Edit} {id : NodeId} {node : Handle} {α : Type}
    (change : Document.Change α) (hid : edit.writtenId? = some id) (hnode : page.Holds node)
    (hdeclines : Document.Declines change)
    (hwrite : ∀ doc doc' a, change doc = .ok a doc' → doc.Rewrites node doc')
    (hrun : apply edit page =
      (onDocument change >>= fun _ => pure .plain : Step Tally) page) :
    Ends page edit (apply edit page) := by
  rw [hrun]
  cases hc : change page.document with
  | error e doc =>
    rw [run_bind_of_error (onDocument_of_error page hc), (hdeclines _ e doc hc).1]
    exact .refused _ _ fun _ => nofun
  | ok a doc =>
    rw [run_bind_of_ok (onDocument_of_ok page hc)]
    exact .written hid hnode (hwrite _ _ a hc)

theorem ends_setText (page : Page) (id : NodeId) (text : String) :
    Ends page (.setText id text) (apply (.setText id text) page) := by
  rcases target_cases page id with h | ⟨node, hnode, hok⟩
  · exact (h.bind _).ends
  · exact ends_written (Document.setText node text) rfl hnode
      (Document.declines_setText node text) (fun _ _ _ => .text text) (run_bind_of_ok hok _)

theorem ends_removeAttribute (page : Page) (id : NodeId) (name : String) (space : Option String) :
    Ends page (.removeAttribute id name space) (apply (.removeAttribute id name space) page) := by
  rcases target_cases page id with h | ⟨node, hnode, hok⟩
  · exact (h.bind _).ends
  · exact ends_written (Document.removeAttribute node name space) rfl hnode
      (Document.declines_removeAttribute node name space)
      (fun _ _ removed => .drop name space removed) (run_bind_of_ok hok _)

theorem ends_setAttribute (page : Page) (id : NodeId) (name : String) (value : Payload)
    (space : Option String) : Ends page (.setAttribute id name value space)
      (apply (.setAttribute id name value space) page) := by
  rcases target_cases page id with h | ⟨node, hnode, hok⟩
  · exact ((h.bind _).bind _).ends
  · cases ht : value.attributeText with
    | error e =>
      have hset := setAttribute_of_target hok name value space
      rw [ht] at hset
      show Ends page _ ((setAttribute id name value space >>= fun _ => pure .plain : Step Tally) page)
      rw [run_bind_of_error hset]
      cases value with
      | handle node =>
        cases ht
        exact .refused _ _ fun _ => nofun
      | _ => cases ht
    | ok written =>
      cases written with
      | some text =>
        exact ends_written (Document.setAttribute node name space text) rfl hnode
          (Document.declines_setAttribute node name space text)
          (fun _ _ _ => .set name space text) (apply_setAttribute_of_text hok ht name space)
      | none =>
        exact ends_written (Document.removeAttribute node name space) rfl hnode
          (Document.declines_removeAttribute node name space)
          (fun _ _ removed => .drop name space removed)
          (apply_setAttribute_of_none hok ht name space)

/-- Taking an operand off the stack leaves the rest of the page. -/
theorem apply_popRoot {page : Page} {slot : Operand} {rest : List Operand}
    (hs : page.operands.slots = slot :: rest) :
    apply .popRoot page =
      .ok .plain { page with operands := { page.operands with slots := rest } } := by
  have hpop : page.operands.popMany 1 =
      .ok ([slot.node], { page.operands with slots := rest }) := by
    unfold Operands.popMany Operands.size
    rw [hs]
    rfl
  exact run_bind_of_ok (popMany_of_ok hpop) _

/-- What an id names is detached after the id is released. -/
theorem remove_of_bound {page : Page} {id : NodeId} {node : Handle}
    (h : page.bindings.lookup? id = some node) :
    remove id page = onDocument (Document.detach node) (page.release id).2 := by
  unfold remove
  rw [release_of_bound h]

theorem ends_remove (page : Page) (id : NodeId) :
    Ends page (.remove id) (apply (.remove id) page) := by
  show Ends page _ ((remove id >>= fun moved =>
    pure (if moved then Tally.removal else Tally.plain) : Step Tally) page)
  cases hl : page.bindings.lookup? id with
  | none =>
    have hrun : remove id page = .ok false page := by
      unfold remove
      rw [release_of_unbound hl]
    rw [run_bind_of_ok hrun]
    exact .absent id hl
  | some node =>
    have hrun := remove_of_bound hl
    cases hd : Document.detach node (page.release id).2.document with
    | error e doc =>
      rw [run_bind_of_error (hrun.trans (onDocument_of_error _ hd))]
      exact .missing id hl hd
    | ok found doc =>
      rw [run_bind_of_ok (hrun.trans (onDocument_of_ok _ hd))]
      exact .removed id _ hl hd

/-- Nodes are taken off the stack, a place is found for them, and they are put there. -/
theorem ends_inserting {page : Page} {edit : Edit} {count : Nat} {find : Step Handle}
    {change : Handle → List Handle → Document.Change Unit} {rest : Step Tally} {tally : Tally}
    (hcount : edit.operandCount? = some count)
    (hfind : ∀ page : Page, Refuses find page ∨
      ∃ h, Places page edit count (change h) ∧ find page = .ok h page)
    (hrest : ∀ page, rest page = .ok tally (edit.finish page))
    (hrun : apply edit = do
      let nodes ← popMany count
      let h ← find
      onDocument (change h nodes)
      rest) : Ends page edit (apply edit page) := by
  rcases popMany_cases page count with h | ⟨nodes, operands, hp, hok⟩
  · apply Refuses.ends
    rw [hrun]
    exact h.bind _
  · rw [hrun, run_bind_of_ok hok]
    rcases hfind { page with operands := operands } with ⟨e, he, hne⟩ | ⟨h, hplace, hh⟩
    · rw [run_bind_of_error he]
      exact .unplaced e hne hcount hp
    · rw [run_bind_of_ok hh]
      cases hc : change h nodes page.document with
      | error e doc =>
        rw [run_bind_of_error (onDocument_of_error { page with operands := operands } hc)]
        exact .stopped hp hplace hc
      | ok u doc =>
        rw [run_bind_of_ok (onDocument_of_ok { page with operands := operands } hc), hrest]
        exact .inserted tally hp hplace hc

/-- The top of the stack is refused or is a place for children. -/
theorem top_places (page : Page) (count : Nat) : Refuses top page ∨
    ∃ h, Places page (.appendChildren count) count (Document.appendChildren h) ∧
      top page = .ok h page := by
  rcases top_cases page with h | ⟨slot, rest, hs, hok⟩
  · exact Or.inl h
  · exact Or.inr ⟨slot.node, .append count ⟨slot, rest, hs, rfl⟩, hok⟩

theorem lookup_places {edit : Edit} {count : Nat} {id : NodeId}
    {change : Handle → List Handle → Document.Change Unit}
    (h : ∀ (page : Page) node, page.bindings.lookup? id = some node →
      Places page edit count (change node)) (page : Page) :
    Refuses (lookup id) page ∨
      ∃ node, Places page edit count (change node) ∧ lookup id page = .ok node page := by
  rcases lookup_cases page id with hr | ⟨node, hl, hok⟩
  · exact Or.inl hr
  · exact Or.inr ⟨node, h page node hl, hok⟩

theorem atPath_places (page : Page) (path : List Nat) (count : Nat) :
    Refuses (atPath path) page ∨
      ∃ h, Places page (.replacePlaceholder path count) count (Document.replaceWith h) ∧
        atPath path page = .ok h page := by
  rcases atPath_cases page path with h | ⟨node, hlead, hok⟩
  · exact Or.inl h
  · exact Or.inr ⟨node, .placeholder path count hlead, hok⟩

theorem ends_saveTemplate (page : Page) (name : String) (count : Nat) :
    Ends page (.saveTemplate name count) (apply (.saveTemplate name count) page) := by
  show Ends page _ ((saveTemplate name count >>= fun _ => pure .plain : Step Tally) page)
  rcases popMany_cases page count with h | ⟨nodes, operands, hp, -⟩
  · exact ((h.bind _).bind _).ends
  · cases hc : Document.appendChildren page.document.size nodes page.withFragment with
    | error e doc =>
      rw [run_bind_of_error (saveTemplate_of_error hp hc name)]
      exact .ungathered name count hp hc
    | ok u doc =>
      have hsteps : saveTemplate name count page =
          (page.gathered operands doc).registerTemplate name page.document.size :=
        saveTemplate_of_ok hp hc name
      have htemplates : (page.gathered operands doc).templates = page.templates :=
        templates_forgetAll _ _
      rw [registerTemplate, Templates.registerInPlace] at hsteps
      rw [htemplates] at hsteps
      cases hg : Keyed.get? page.templates.entries name with
      | none =>
        rw [hg] at hsteps
        rw [run_bind_of_ok hsteps]
        exact .registered name count _ hp hc hg
      | some existing =>
        rw [hg] at hsteps
        dsimp only at hsteps
        by_cases hsame : (page.gathered operands doc).document.structurallyEqual
            existing.fragment page.document.size = true
        · rw [if_pos hsame] at hsteps
          rw [run_bind_of_ok hsteps, ← htemplates]
          exact .known name count hp hc hg
        · rw [if_neg hsame] at hsteps
          rw [run_bind_of_error hsteps, ← htemplates]
          exact .taken name count hp hc hg

/-- Every edit ends in one of these ways. -/
theorem ends_apply (page : Page) (edit : Edit) : Ends page edit (apply edit page) := by
  cases edit with
  | createElement tag id => exact ends_bound rfl (makes_node page _) rfl
  | createElementNs tag id space => exact ends_bound rfl (makes_node page _) rfl
  | createTextNode text id => exact ends_bound rfl (makes_node page _) rfl
  | createPlaceholder id => exact ends_bound rfl (makes_node page _) rfl
  | loadTemplate name index id => exact ends_bound rfl (stampRoot_cases page name index) rfl
  | setNode id value => exact ends_setNode page id value
  | assignId path id => exact ends_assignId page path id
  | pushRoot id =>
    rcases lookup_cases page id with h | ⟨node, hl, hok⟩
    · exact (h.bind _).ends
    · have hrun : apply (.pushRoot id) page =
          .ok .plain { page with operands := page.operands.push node } := run_bind_of_ok hok _
      rw [hrun]
      exact .pushed id hl
  | popRoot =>
    rcases popMany_cases page 1 with h | ⟨nodes, operands, hp, hok⟩
    · exact (h.bind _).ends
    · have hrun : apply .popRoot page = .ok .plain { page with operands := operands } :=
        run_bind_of_ok hok _
      rw [hrun]
      exact .popped hp
  | setText id text => exact ends_setText page id text
  | setAttribute id name value space => exact ends_setAttribute page id name value space
  | removeAttribute id name space => exact ends_removeAttribute page id name space
  | appendChildren count =>
    exact ends_inserting rfl (fun page => top_places page count) (fun _ => rfl) rfl
  | replaceWith id count =>
    exact ends_inserting rfl (lookup_places fun _ _ => .replace id count) (fun _ => rfl) rfl
  | insertAfter id count =>
    exact ends_inserting rfl (lookup_places fun _ _ => .after id count) (fun _ => rfl) rfl
  | insertBefore id count =>
    exact ends_inserting rfl (lookup_places fun _ _ => .before id count) (fun _ => rfl) rfl
  | replacePlaceholder path count =>
    exact ends_inserting rfl (fun page => atPath_places page path count) (fun _ => rfl) rfl
  | remove id => exact ends_remove page id
  | newEventListener name id handler =>
    rcases lookup_cases page id with h | ⟨node, hl, hok⟩
    · exact (h.bind _).ends
    · have hrun : apply (.newEventListener name id handler) page =
          .ok .plain (page.withListener id name handler) := run_bind_of_ok hok _
      have hbound : page.bindings.contains id = true := by rw [Bindings.contains, hl]; rfl
      rw [hrun]
      exact .listened name id handler hbound
  | removeEventListener id name => exact .unlistened id name
  | saveTemplate name count => exact ends_saveTemplate page name count

end Page

end PageHost
