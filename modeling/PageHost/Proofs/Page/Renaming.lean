import Mathlib.Logic.Equiv.Basic
import PageHost.Proofs.Delegation.Renaming
import PageHost.Proofs.Page.Teardown
/-!
# Ids have no meaning of their own

The engine may choose its ids as it likes. A run whose ids are renamed, different ids
differently and 0 as 0, comes to the same document with the same operands, templates and
root listeners, and fails where the other one fails with the same error about the image of
the id. The tables are the images of those of the other run, and every event is reported
alike.

Two pages are compared by what their tables answer and not by the order in which these
hold their entries, so nothing depends on that order either.
-/

namespace PageHost

/-! ## Renaming -/

namespace Edit

/-- The edit with another id; 0 as a target is an id too. -/
def rename (s : NodeId → NodeId) : Edit → Edit
  | .createElement tag id => .createElement tag (s id)
  | .createElementNs tag id space => .createElementNs tag (s id) space
  | .createTextNode text id => .createTextNode text (s id)
  | .createPlaceholder id => .createPlaceholder (s id)
  | .setNode id value => .setNode (s id) value
  | .pushRoot id => .pushRoot (s id)
  | .popRoot => .popRoot
  | .appendChildren count => .appendChildren count
  | .replaceWith id count => .replaceWith (s id) count
  | .insertAfter id count => .insertAfter (s id) count
  | .insertBefore id count => .insertBefore (s id) count
  | .remove id => .remove (s id)
  | .setText id text => .setText (s id) text
  | .setAttribute id name value space => .setAttribute (s id) name value space
  | .removeAttribute id name space => .removeAttribute (s id) name space
  | .newEventListener name id handler => .newEventListener name (s id) handler
  | .removeEventListener id name => .removeEventListener (s id) name
  | .saveTemplate name count => .saveTemplate name count
  | .loadTemplate name index id => .loadTemplate name index (s id)
  | .assignId path id => .assignId path (s id)
  | .replacePlaceholder path count => .replacePlaceholder path count

/-- Renaming ids leaves an edit the same instruction. -/
theorem opcode_rename (s : NodeId → NodeId) (edit : Edit) :
    (edit.rename s).opcode = edit.opcode := by
  cases edit <;> rfl

end Edit

/-- The error about another id. -/
def EditError.rename (s : NodeId → NodeId) : EditError → EditError
  | .unknownNode id => .unknownNode (s id)
  | .duplicateBinding id => .duplicateBinding (s id)
  | e => e

/-- The failure of a batch with an error about another id. -/
def BatchError.rename (s : NodeId → NodeId) (e : BatchError) : BatchError :=
  { e with cause := e.cause.rename s }

namespace Page

/-- The image of a page along a renaming of its ids. -/
structure Mirrors (s : NodeId → NodeId) (page image : Page) : Prop where
  document : image.document = page.document
  bindings : page.bindings.Mirrors s image.bindings
  operands : image.operands = page.operands
  templates : image.templates = page.templates
  delegation : page.delegation.Mirrors s image.delegation
  strict : image.strict = page.strict

/-- A page and its image, with the tables of both in order. -/
structure Paired (s : NodeId → NodeId) (page image : Page) : Prop extends Mirrors s page image where
  sound : page.bindings.Sound
  sound_image : image.bindings.Sound
  proper : page.delegation.Proper
  proper_image : image.delegation.Proper

/-- Fresh pages over one document mirror each other. -/
theorem paired_ofDocument (s : NodeId → NodeId) (document : Document) (strict : Bool) :
    Paired s (ofDocument document strict) (ofDocument document strict) where
  document := rfl
  bindings := Bindings.mirrors_empty s
  operands := rfl
  templates := rfl
  delegation := Delegation.mirrors_empty s
  strict := rfl
  sound := Bindings.sound_empty
  sound_image := Bindings.sound_empty
  proper := Delegation.proper_empty
  proper_image := Delegation.proper_empty

/-- Two results are the same but for the ids: the errors are renamed by `f`. -/
def Agrees {ε α : Type} (s : NodeId → NodeId) (f : ε → ε) :
    EStateM.Result ε Page α → EStateM.Result ε Page α → Prop
  | .ok a page, .ok b image => b = a ∧ Paired s page image
  | .error e page, .error e' image => e' = f e ∧ Paired s page image
  | _, _ => False

/-- Results that agree both succeed with one value or both fail with one error, but for the
names. -/
theorem Agrees.cases {ε α : Type} {s : NodeId → NodeId} {f : ε → ε}
    {first image : EStateM.Result ε Page α} (h : Agrees s f first image) :
    (∃ a page mirrored, first = .ok a page ∧ image = .ok a mirrored ∧ Paired s page mirrored) ∨
      ∃ e page mirrored, first = .error e page ∧ image = .error (f e) mirrored ∧
        Paired s page mirrored := by
  cases first with
  | ok a page =>
    cases image with
    | ok b mirrored =>
      obtain ⟨rfl, hpair⟩ := h
      exact .inl ⟨b, page, mirrored, rfl, rfl, hpair⟩
    | error e mirrored => exact h.elim
  | error e page =>
    cases image with
    | ok b mirrored => exact h.elim
    | error e' mirrored =>
      obtain ⟨rfl, hpair⟩ := h
      exact .inr ⟨e, page, mirrored, rfl, rfl, hpair⟩

/-- The second step does to the image of a page what the first one does to the page. -/
def Parallel {α : Type} (s : NodeId → NodeId) (step image : Step α) : Prop :=
  ∀ page mirrored, Paired s page mirrored →
    Agrees s (EditError.rename s) (step page) (image mirrored)

section Steps

variable {α β : Type} {s : NodeId → NodeId}

theorem parallel_pure (a : α) : Parallel s (pure a) (pure a) := fun _ _ h => ⟨rfl, h⟩

/-- Parallel steps are parallel in sequence. -/
theorem Parallel.bind {first first' : Step α} {next next' : α → Step β}
    (h : Parallel s first first') (h' : ∀ a, Parallel s (next a) (next' a)) :
    Parallel s (first >>= next) (first' >>= next') := by
  intro page image hpair
  rcases (h page image hpair).cases with ⟨a, middle, middle', hr, hr', hmiddle⟩ | ⟨e, _, _, hr, hr', hfailed⟩
  · rw [run_bind_of_ok hr, run_bind_of_ok hr']
    exact h' a middle middle' hmiddle
  · rw [run_bind_of_error hr, run_bind_of_error hr']
    exact ⟨rfl, hfailed⟩

/-- Changes that keep pages paired are parallel. -/
theorem parallel_modify {f g : Page → Page}
    (h : ∀ page image, Paired s page image → Paired s (f page) (g image)) :
    Parallel s (modify f) (modify g) := fun page image hpair => ⟨rfl, h page image hpair⟩

/-! ## Parts of a page that hold no ids -/

/-- Pages stay paired when both get one document. -/
theorem Paired.withDocument {page image : Page} (h : Paired s page image) (doc : Document) :
    Paired s { page with document := doc } { image with document := doc } :=
  { h with document := rfl }

theorem Paired.withOperands {page image : Page} (h : Paired s page image) (operands : Operands) :
    Paired s { page with operands := operands } { image with operands := operands } :=
  { h with operands := rfl }

theorem Paired.withTemplates {page image : Page} (h : Paired s page image)
    (templates : Templates) :
    Paired s { page with templates := templates } { image with templates := templates } :=
  { h with templates := rfl }

/-- A change of the document runs in parallel. -/
theorem parallel_onDocument (change : Document.Change α) :
    Parallel s (onDocument change) (onDocument change) := by
  intro page image h
  unfold onDocument
  rw [h.document]
  cases change page.document with
  | ok a doc => exact ⟨rfl, h.withDocument doc⟩
  | error e doc => exact ⟨rfl, h.withDocument doc⟩

/-- Making a node runs in parallel. -/
theorem parallel_makeNode (make : Document → Handle × Document) :
    Parallel s (makeNode make) (makeNode make) := by
  intro page image h
  unfold makeNode
  rw [h.document]
  exact ⟨rfl, h.withDocument _⟩

theorem parallel_push (node : Handle) : Parallel s (push node) (push node) := by
  intro page image h
  unfold push
  rw [h.operands]
  exact ⟨rfl, h.withOperands _⟩

theorem parallel_popMany (count : Nat) : Parallel s (popMany count) (popMany count) := by
  intro page image h
  unfold popMany Operands.popMany
  rw [h.operands]
  by_cases hc : page.operands.size < count
  · rw [if_pos hc]
    exact ⟨rfl, h⟩
  · rw [if_neg hc]
    exact ⟨rfl, h.withOperands _⟩

theorem parallel_top : Parallel s top top := by
  intro page image h
  unfold top Operands.top
  rw [h.operands]
  cases page.operands.slots with
  | nil => exact ⟨rfl, h⟩
  | cons slot rest => exact ⟨rfl, h⟩

theorem parallel_atPath (path : List Nat) : Parallel s (atPath path) (atPath path) := by
  apply parallel_top.bind
  intro start page image h
  dsimp only
  rw [h.document]
  cases page.document.atPath start path with
  | none => exact ⟨rfl, h⟩
  | some node => exact ⟨rfl, h⟩

theorem parallel_seed (value : Payload) : Parallel s (seed value) (seed value) := by
  intro page image h
  unfold seed
  rw [h.document]
  cases value with
  | handle node =>
    dsimp only
    split
    · exact ⟨rfl, h⟩
    · exact ⟨rfl, h⟩
  | text id =>
    dsimp only
    cases page.document.elementById id with
    | none => exact ⟨rfl, h⟩
    | some node => exact ⟨rfl, h⟩
  | number _ | bool _ | null => exact ⟨rfl, h⟩

theorem parallel_stampRoot (name : String) (index : Nat) :
    Parallel s (stampRoot name index) (stampRoot name index) := by
  intro page image h
  have hstamp : image.templates.stampRoot name index image.document =
      page.templates.stampRoot name index page.document := by
    rw [h.templates, h.document]
  unfold stampRoot
  rw [hstamp]
  unfold Templates.stampRoot Templates.find Templates.copyNode
  cases Keyed.get? page.templates.entries name with
  | none => exact ⟨rfl, h.withDocument _⟩
  | some template =>
    dsimp only
    cases (page.document.children template.fragment)[index]? with
    | none => exact ⟨rfl, h.withDocument _⟩
    | some top =>
      dsimp only
      cases Document.deepClone top page.document with
      | ok copy doc => exact ⟨rfl, h.withDocument doc⟩
      | error e doc => exact ⟨rfl, h.withDocument doc⟩

/-! ## Ids -/

section Ids

variable (hs : Function.Injective s) (hzero : s reservedId = reservedId)

include hs hzero in
/-- Only the reserved id is renamed to the reserved id. -/
theorem reserved_iff (id : NodeId) : s id = reservedId ↔ id = reservedId := by
  constructor
  · intro he
    exact hs (he.trans hzero.symm)
  · rintro rfl
    exact hzero

/-- Looking up an id runs parallel to looking up its image. -/
theorem parallel_lookup (id : NodeId) : Parallel s (lookup id) (lookup (s id)) := by
  intro page image h
  unfold lookup Bindings.lookup
  rw [h.bindings.lookup?]
  cases page.bindings.lookup? id with
  | none => exact ⟨rfl, h⟩
  | some node => exact ⟨rfl, h⟩

include hs hzero in
theorem parallel_target (id : NodeId) : Parallel s (target id) (target (s id)) := by
  unfold target
  by_cases hid : id = reservedId
  · rw [if_pos hid, if_pos ((reserved_iff hs hzero id).mpr hid)]
    exact parallel_top
  · rw [if_neg hid, if_neg (mt (reserved_iff hs hzero id).mp hid)]
    exact parallel_lookup id

include hs hzero in
/-- Binding an id runs parallel to binding its image. -/
theorem parallel_bind (id : NodeId) (node : Handle) :
    Parallel s (Page.bind id node) (Page.bind (s id) node) := by
  intro page image h
  rw [bind_eq, bind_eq, Bindings.bind_eq, Bindings.bind_eq, h.bindings.lookup?]
  by_cases hid : id = reservedId
  · rw [if_pos hid, if_pos ((reserved_iff hs hzero id).mpr hid)]
    exact ⟨rfl, h⟩
  · rw [if_neg hid, if_neg (mt (reserved_iff hs hzero id).mp hid)]
    cases hl : page.bindings.lookup? id with
    | some named => exact ⟨rfl, h⟩
    | none =>
      have hbind : page.bindings.bind id node = .ok (page.bindings.assign id node) := by
        rw [Bindings.bind_eq, if_neg hid, hl]
        rfl
      have hbind' : image.bindings.bind (s id) node = .ok (image.bindings.assign (s id) node) := by
        rw [Bindings.bind_eq, if_neg (mt (reserved_iff hs hzero id).mp hid), h.bindings.lookup?, hl]
        rfl
      exact ⟨rfl, { h with
        bindings := h.bindings.assign hs id node
        sound := Bindings.sound_bind h.sound hbind
        sound_image := Bindings.sound_bind h.sound_image hbind' }⟩

include hs hzero in
theorem parallel_bindAndPush (id : NodeId) (node : Handle) :
    Parallel s (bindAndPush id node) (bindAndPush (s id) node) :=
  (parallel_bind hs hzero id node).bind fun _ => parallel_push node

/-! ## Registrations -/

include hs in
/-- Pages stay paired when registrations of an id and of its image are taken back. -/
theorem Paired.revoked {page image : Page} (h : Paired s page image)
    (call : Delegation.Revocation) : Paired s (page.revoked call) (image.revoked (call.rename s)) := by
  have hcall := h.delegation.perform hs h.proper h.proper_image page.document call
  unfold Page.revoked
  rw [h.document]
  exact { h with
    document := hcall.2
    delegation := hcall.1
    proper := h.proper.perform page.document call
    proper_image := h.proper_image.perform page.document (call.rename s) }

include hs in
/-- Pages stay paired when ids and their images are forgotten. -/
theorem Paired.forgetAll {page image : Page} (h : Paired s page image) (ids : List NodeId) :
    Paired s (page.forgetAll ids) (image.forgetAll (ids.map s)) := by
  induction ids generalizing page image with
  | nil => exact h
  | cons id rest ih =>
    have hfirst : Paired s (page.forget id) (image.forget (s id)) := h.revoked hs (.all id)
    exact ih hfirst

/-- Ids can be forgotten in any order. -/
theorem forgetAll_perm {page : Page} (h : page.delegation.Proper) {ids others : List NodeId}
    (hp : ids.Perm others) : page.forgetAll ids = page.forgetAll others := by
  induction hp generalizing page with
  | nil => rfl
  | cons id _ ih =>
    have hfirst : (page.forget id).delegation.Proper := h.perform page.document (.all id)
    exact ih hfirst
  | swap a b rest =>
    have hcomm : (page.forget b).forget a = (page.forget a).forget b :=
      revoked_comm h (.all b) (.all a)
    exact congrArg (Page.forgetAll · rest) hcomm
  | trans _ _ ih ih' => exact (ih h).trans (ih' h)

/-! ## Edits that release ids -/

include hs in
/-- Pages stay paired when an id and its image are released. -/
theorem Paired.release {page image : Page} (h : Paired s page image) (id : NodeId) :
    (image.release (s id)).1 = (page.release id).1 ∧
      Paired s (page.release id).2 (image.release (s id)).2 := by
  have hl := h.bindings.lookup? id
  cases hlookup : page.bindings.lookup? id with
  | none =>
    rw [hlookup] at hl
    rw [release_of_unbound hlookup, release_of_unbound hl]
    exact ⟨rfl, h⟩
  | some node =>
    rw [hlookup] at hl
    rw [release_of_bound hlookup, release_of_bound hl]
    have hunbound : Paired s { page with bindings := (page.bindings.unbind id).2 }
        { image with bindings := (image.bindings.unbind (s id)).2 } :=
      { h with
        bindings := h.bindings.unbind hs h.sound h.sound_image id
        sound := Bindings.sound_unbind h.sound id
        sound_image := Bindings.sound_unbind h.sound_image (s id) }
    exact ⟨rfl, hunbound.forgetAll hs [id]⟩

include hs in
theorem parallel_remove (id : NodeId) : Parallel s (remove id) (remove (s id)) := by
  intro page image h
  have hrelease := h.release hs id
  unfold remove
  rw [show image.release (s id) = ((page.release id).1, (image.release (s id)).2) from
    Prod.ext hrelease.1 rfl]
  cases hr : (page.release id).1 with
  | none =>
    rw [show page.release id = (none, (page.release id).2) from Prod.ext hr rfl]
    exact ⟨rfl, hrelease.2⟩
  | some node =>
    rw [show page.release id = (some node, (page.release id).2) from Prod.ext hr rfl]
    exact parallel_onDocument _ _ _ hrelease.2

include hs hzero in
/-- Setting the node of an id runs parallel to setting that of its image. -/
theorem parallel_setNode (id : NodeId) (value : Payload) :
    Parallel s (setNode id value) (setNode (s id) value) := by
  apply (parallel_seed value).bind
  intro node page image h
  have howns : image.templates.owns image.document node =
      page.templates.owns page.document node := by
    rw [h.templates, h.document]
  dsimp only
  rw [howns, h.bindings.contains]
  split
  · exact ⟨rfl, h⟩
  · split
    · rw [rebind_eq, rebind_eq, Bindings.rebind_eq, Bindings.rebind_eq, h.bindings.lookup?]
      cases hl : page.bindings.lookup? id with
      | none => exact ⟨rfl, h⟩
      | some previous =>
        have hl' : image.bindings.lookup? (s id) = some previous := (h.bindings.lookup? id).trans hl
        have hbound := Bindings.rebind_eq page.bindings id node
        have hbound' := Bindings.rebind_eq image.bindings (s id) node
        rw [hl] at hbound
        rw [hl'] at hbound'
        have hmoved : Paired s
            { page with bindings := (page.bindings.forgetAlias previous id).assign id node }
            { image with
              bindings := (image.bindings.forgetAlias previous (s id)).assign (s id) node } :=
          { h with
            bindings := (h.bindings.forgetAlias hs previous id).assign hs id node
            sound := Bindings.sound_rebind h.sound hbound
            sound_image := Bindings.sound_rebind h.sound_image hbound' }
        dsimp only
        split
        · exact ⟨rfl, hmoved⟩
        · exact ⟨rfl, hmoved.forgetAll hs [id]⟩
    · exact parallel_bind hs hzero id node page image h

include hs in
theorem Paired.releaseBelow {page image : Page} (h : Paired s page image) (top : Handle) :
    Paired s (page.releaseBelow top) (image.releaseBelow top) := by
  unfold Page.releaseBelow
  rw [h.document]
  generalize (page.document.descendants top).contains = test
  have hunbound : Paired s { page with bindings := (page.bindings.unbindWhere test).2 }
      { image with
        document := page.document, bindings := (image.bindings.unbindWhere test).2 } :=
    { h with
      document := rfl
      bindings := h.bindings.unbindWhere h.sound h.sound_image test
      sound := Bindings.sound_unbindWhere h.sound test
      sound_image := Bindings.sound_unbindWhere h.sound_image test }
  have hperm := h.bindings.released_perm hs h.sound h.sound_image test
  have hforgotten := hunbound.forgetAll hs (page.bindings.unbindWhere test).1
  rw [← forgetAll_perm hunbound.proper_image hperm] at hforgotten
  exact hforgotten

/-- Registering a template gives the same answer on paired pages. -/
theorem Paired.registerTemplate {page image : Page} (h : Paired s page image) (name : String)
    (fragment : Handle) :
    Agrees s (EditError.rename s) (page.registerTemplate name fragment)
      (image.registerTemplate name fragment) := by
  have hregister : image.templates.register image.document name fragment =
      page.templates.register page.document name fragment := by
    rw [h.templates, h.document]
  rw [registerTemplate_eq, registerTemplate_eq, hregister]
  cases hr : page.templates.register page.document name fragment with
  | error e =>
    rw [register_error hr]
    exact ⟨rfl, h⟩
  | ok registered => exact ⟨rfl, h.withTemplates registered.2⟩

include hs in
theorem parallel_saveTemplate (name : String) (count : Nat) :
    Parallel s (saveTemplate name count) (saveTemplate name count) := by
  apply (parallel_popMany count).bind
  intro roots
  apply (parallel_makeNode _).bind
  intro fragment
  apply (parallel_onDocument _).bind
  intro _ page image h
  exact (h.releaseBelow hs fragment).registerTemplate name fragment

include hs hzero in
theorem parallel_setAttribute (id : NodeId) (name : String) (value : Payload)
    (space : Option String) :
    Parallel s (setAttribute id name value space) (setAttribute (s id) name value space) := by
  apply (parallel_target hs hzero id).bind
  intro node page image h
  dsimp only
  cases hv : value.attributeText with
  | error e =>
    cases value <;> cases hv
    exact ⟨rfl, h⟩
  | ok text =>
    cases text with
    | some text => exact parallel_onDocument _ page image h
    | none =>
      have hremoved := parallel_onDocument (Document.removeAttribute node name space) page image h
      dsimp only
      rcases hremoved.cases with ⟨_, _, _, hr, hr', hpair⟩ | ⟨_, _, _, hr, hr', hpair⟩
      · rw [hr, hr']
        exact ⟨rfl, hpair⟩
      · rw [hr, hr']
        exact ⟨rfl, hpair⟩

end Ids

/-! ## Edits -/

/-- An edit runs parallel to the renamed edit. -/
theorem parallel_apply (hs : Function.Injective s) (hzero : s reservedId = reservedId)
    (edit : Edit) : Parallel s (apply edit) (apply (edit.rename s)) := by
  have hbound : ∀ id node, Parallel s (do bindAndPush id node; return Tally.creation)
      (do bindAndPush (s id) node; return Tally.creation) := fun id node =>
    (parallel_bindAndPush hs hzero id node).bind fun _ => parallel_pure _
  have hmade : ∀ (id : NodeId) (make : Document → Handle × Document),
      Parallel s (do let node ← makeNode make; bindAndPush id node; return Tally.creation)
        (do let node ← makeNode make; bindAndPush (s id) node; return Tally.creation) :=
    fun id make => (parallel_makeNode make).bind (hbound id)
  cases edit with
  | createElement tag id => exact hmade id _
  | createElementNs tag id space => exact hmade id _
  | createTextNode text id => exact hmade id _
  | createPlaceholder id => exact hmade id _
  | loadTemplate name index id => exact (parallel_stampRoot name index).bind (hbound id)
  | setNode id value => exact (parallel_setNode hs hzero id value).bind fun _ => parallel_pure _
  | pushRoot id =>
    refine (parallel_lookup id).bind fun node => ?_
    exact (parallel_push node).bind fun _ => parallel_pure _
  | popRoot => exact (parallel_popMany 1).bind fun _ => parallel_pure _
  | appendChildren count =>
    refine (parallel_popMany count).bind fun children => parallel_top.bind fun parent => ?_
    refine (parallel_onDocument _).bind fun _ => Parallel.bind (parallel_modify ?_) fun _ => parallel_pure _
    intro page image h
    rw [h.operands]
    exact h.withOperands _
  | replaceWith id count =>
    refine (parallel_popMany count).bind fun nodes => (parallel_lookup id).bind fun old => ?_
    refine (parallel_onDocument _).bind fun _ => Parallel.bind (parallel_modify ?_) fun _ => parallel_pure _
    exact fun page image h => (h.release hs id).2
  | insertAfter id count =>
    refine (parallel_popMany count).bind fun nodes => (parallel_lookup id).bind fun node => ?_
    exact (parallel_onDocument _).bind fun _ => parallel_pure _
  | insertBefore id count =>
    refine (parallel_popMany count).bind fun nodes => (parallel_lookup id).bind fun node => ?_
    exact (parallel_onDocument _).bind fun _ => parallel_pure _
  | replacePlaceholder path count =>
    refine (parallel_popMany count).bind fun nodes => (parallel_atPath path).bind fun node => ?_
    exact (parallel_onDocument _).bind fun _ => parallel_pure _
  | remove id => exact (parallel_remove hs id).bind fun _ => parallel_pure _
  | setText id text =>
    refine (parallel_target hs hzero id).bind fun node => ?_
    exact (parallel_onDocument _).bind fun _ => parallel_pure _
  | setAttribute id name value space =>
    exact (parallel_setAttribute hs hzero id name value space).bind fun _ => parallel_pure _
  | removeAttribute id name space =>
    refine (parallel_target hs hzero id).bind fun node => ?_
    exact (parallel_onDocument _).bind fun _ => parallel_pure _
  | newEventListener name id handler =>
    refine (parallel_lookup id).bind fun _ => Parallel.bind (parallel_modify ?_) fun _ => parallel_pure _
    intro page image h
    have hlisten := h.delegation.listen hs page.document id name handler
    rw [h.document]
    exact { h with
      document := hlisten.2
      delegation := hlisten.1
      proper := h.proper.listen page.document id name handler
      proper_image := h.proper_image.listen page.document (s id) name handler }
  | removeEventListener id name =>
    refine Parallel.bind (parallel_modify ?_) fun _ => parallel_pure _
    exact fun page image h => h.revoked hs (.one id name)
  | saveTemplate name count => exact (parallel_saveTemplate hs name count).bind fun _ => parallel_pure _
  | assignId path id =>
    refine (parallel_atPath path).bind fun node => ?_
    exact (parallel_bind hs hzero id node).bind fun _ => parallel_pure _

end Steps

/-! ## Batches -/

section Batches

variable {s : NodeId → NodeId}

theorem Paired.clearOperands {page image : Page} (h : Paired s page image) :
    Paired s page.clearOperands image.clearOperands := by
  unfold Page.clearOperands
  rw [h.operands]
  exact h.withOperands _

/-- The end of a batch gives the same answer on paired pages. -/
theorem agrees_finish {page image : Page} (h : Paired s page image) (length : Nat)
    (tally : Tally) :
    Agrees s (BatchError.rename s) (finish length tally page) (finish length tally image) := by
  unfold finish
  rw [h.strict, h.operands]
  dsimp only
  split
  · split
    · exact ⟨rfl, h.clearOperands⟩
    · exact ⟨rfl, h.clearOperands⟩
  · exact ⟨rfl, h⟩

variable (hs : Function.Injective s) (hzero : s reservedId = reservedId)
include hs hzero

/-- A batch and the renamed batch give the same answer on paired pages. -/
theorem agrees_applyFrom (edits : List Edit) (index : Nat) (tally : Tally) {page image : Page}
    (h : Paired s page image) :
    Agrees s (BatchError.rename s) (applyFrom index tally edits page)
      (applyFrom index tally (edits.map (Edit.rename s)) image) := by
  induction edits generalizing index tally page image with
  | nil => exact agrees_finish h index tally
  | cons edit rest ih =>
    rw [List.map_cons]
    unfold applyFrom
    rcases (parallel_apply hs hzero edit page image h).cases with
      ⟨done, _, _, hr, hr', hpair⟩ | ⟨e, _, _, hr, hr', hpair⟩
    · rw [hr, hr']
      exact ih _ _ hpair
    · rw [hr, hr', Edit.opcode_rename]
      exact ⟨rfl, hpair.clearOperands⟩

end Batches

/-- What the batches of a run answer, one after the other. -/
def answers (page : Page) : List (List Edit) → List (Except BatchError Tally)
  | [] => []
  | batch :: rest => answer (applyBatch batch page) :: answers (page.afterBatch batch) rest

/-- Batches and the renamed batches give the same answers and leave paired pages. -/
theorem Paired.afterBatches {s : NodeId → NodeId} (hs : Function.Injective s)
    (hzero : s reservedId = reservedId) {page image : Page} (h : Paired s page image)
    (batches : List (List Edit)) :
    image.answers (batches.map (List.map (Edit.rename s))) =
        (page.answers batches).map (Except.mapError (BatchError.rename s)) ∧
      Paired s (page.afterBatches batches)
        (image.afterBatches (batches.map (List.map (Edit.rename s)))) := by
  induction batches generalizing page image with
  | nil => exact ⟨rfl, h⟩
  | cons batch rest ih =>
    have hbatch := (agrees_applyFrom hs hzero batch 0 .zero h).cases
    rw [List.map_cons]
    unfold answers Page.afterBatches
    rw [List.map_cons, List.foldl_cons, List.foldl_cons]
    unfold afterBatch applyBatch
    rcases hbatch with ⟨done, _, _, hr, hr', hpair⟩ | ⟨e, _, _, hr, hr', hpair⟩
    · obtain ⟨hanswers, hrest⟩ := ih hpair
      rw [hr, hr']
      exact ⟨congrArg (List.cons _) hanswers, hrest⟩
    · obtain ⟨hanswers, hrest⟩ := ih hpair
      rw [hr, hr']
      exact ⟨congrArg (List.cons _) hanswers, hrest⟩

/-- A run on a fresh page does not depend on which ids the engine chooses: with renamed ids every
batch answers the same but for the ids in errors, the run comes to the image of the page, and there
every event has the same outcome, about the image of the id. A renaming of the ids below `2 ^ 64`
alone is one of all numbers that leaves the rest as they are. -/
theorem ids_are_opaque {s : NodeId → NodeId} (hs : Function.Injective s)
    (hzero : s reservedId = reservedId) (document : Document) (strict : Bool)
    (batches : List (List Edit)) :
    let start := ofDocument document strict
    let renamed := batches.map (List.map (Edit.rename s))
    start.answers renamed = (start.answers batches).map (Except.mapError (BatchError.rename s)) ∧
      (start.afterBatches batches).Mirrors s (start.afterBatches renamed) ∧
      ∀ event, (start.afterBatches renamed).dispatch event =
        ((start.afterBatches batches).dispatch event).rename s := by
  intro start renamed
  obtain ⟨hanswers, hpair⟩ :=
    (paired_ofDocument s document strict).afterBatches hs hzero batches
  refine ⟨hanswers, hpair.toMirrors, fun event => ?_⟩
  unfold Page.dispatch
  rw [hpair.document]
  exact Delegation.dispatch_renamed hpair.bindings hpair.delegation _ event

/-- Two ids of one paragraph are swapped. The event is reported about the other one, which was bound
last in the run with the swapped ids, and the refused edit fails on the other one too. -/
theorem ids_are_opaque_swap :
    let s : NodeId → NodeId := Equiv.swap 1 2
    let start := ofDocument .blank true
    let batches : List (List Edit) :=
      [[.setNode 3 (.handle 3), .pushRoot 3, .createElement "p" 1, .appendChildren 1,
          .setNode 2 (.handle 4), .newEventListener "click" 1 .null],
        [.createElement "p" 2]]
    let renamed := batches.map (List.map (Edit.rename s))
    let click : NativeEvent := ⟨"click", 4, .generic⟩
    Function.Injective s ∧ s reservedId = reservedId ∧
      start.answers renamed =
        [.ok ⟨6, 1, 0⟩, .error ⟨0, "create_element", .duplicateBinding 1⟩] ∧
      ((start.afterBatches batches).dispatch click).record.map (·.target) = some 2 ∧
      ((start.afterBatches renamed).dispatch click).record.map (·.target) = some 1 := by
  intro s start batches renamed click
  have hs : Function.Injective s := (Equiv.swap 1 2).injective
  have hzero : s reservedId = reservedId := by decide
  have hanswers : start.answers batches =
      [.ok ⟨6, 1, 0⟩, .error ⟨0, "create_element", .duplicateBinding 2⟩] := by decide +kernel
  have hreport : ((start.afterBatches batches).dispatch click).record.map (·.target) = some 2 := by
    decide +kernel
  obtain ⟨hrenamed, -, hevents⟩ := ids_are_opaque hs hzero .blank true batches
  refine ⟨hs, hzero, ?_, hreport, ?_⟩
  · rw [hrenamed, hanswers]
    decide
  · rw [hevents click, Outcome.target_rename, hreport]
    decide

end Page

end PageHost
