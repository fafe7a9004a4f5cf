import PageHost.Proofs.Page.Endings
/-!
# Causes of failure

With which errors an edit can end follows from the steps that it consists of. The
errors that most steps share concern neither the stack nor the place of a node in
the tree. What these have in common is proved once for every property of errors
that they have: an edit that finds too little on the stack says so, and one that
finds enough ends with an error of the property, if it fails at all.
-/

namespace PageHost

/-- The error concerns neither the stack nor the place of a node in the tree. -/
def EditError.isPlain : EditError → Bool
  | .stackUnderflow .. | .residualStack _ => false
  | .dom cause => cause.isLocal
  | _ => true

/-- The error is none of the document and does not concern the stack. -/
def EditError.isOwn : EditError → Bool
  | .stackUnderflow .. | .residualStack _ | .dom _ => false
  | _ => true

/-- An error that is neither of the document nor of the stack is plain. -/
theorem EditError.isPlain_of_isOwn {e : EditError} (h : e.isOwn = true) : e.isPlain = true := by
  cases e <;> first | rfl | cases h

/-- How many entries an edit needs on the stack. -/
def Edit.need : Edit → Nat
  | .popRoot | .assignId .. => 1
  | .setText id _ | .setAttribute id _ _ _ | .removeAttribute id _ _ =>
    if id = reservedId then 1 else 0
  | .appendChildren count | .replacePlaceholder _ count => count + 1
  | .replaceWith _ count | .insertAfter _ count | .insertBefore _ count | .saveTemplate _ count =>
    count
  | _ => 0

namespace Page

variable {α β : Type} {p : EditError → Prop}

/-- The step fails with errors of a property only. -/
def FailsIn (p : EditError → Prop) (step : Step α) : Prop :=
  ∀ page e after, step page = .error e after → p e

/-! ## Steps in sequence -/

/-- A step that never fails has errors of every property. -/
theorem failsIn_of_ok {step : Step α} (h : ∀ page, ∃ a after, step page = .ok a after) :
    FailsIn p step := by
  intro page e after he
  obtain ⟨a, reached, hok⟩ := h page
  rw [hok] at he
  cases he

/-- Steps that fail with errors of a property do so in sequence. -/
theorem failsIn_bind {first : Step α} {next : α → Step β} (h : FailsIn p first)
    (h' : ∀ a, FailsIn p (next a)) : FailsIn p (first >>= next) := by
  intro page e after he
  cases hr : first page with
  | ok a middle =>
    rw [run_bind_of_ok hr] at he
    exact h' a middle e after he
  | error cause failed =>
    rw [run_bind_of_error hr] at he
    cases he
    exact h page e after hr

theorem failsIn_pure (a : α) : FailsIn p (pure a) := failsIn_of_ok fun page => ⟨a, page, rfl⟩

theorem failsIn_modify (f : Page → Page) : FailsIn p (modify f) :=
  failsIn_of_ok fun page => ⟨⟨⟩, f page, rfl⟩

theorem failsIn_makeNode (make : Document → Handle × Document) : FailsIn p (makeNode make) :=
  failsIn_of_ok fun page =>
    ⟨(make page.document).1, { page with document := (make page.document).2 }, rfl⟩

theorem failsIn_push (node : Handle) : FailsIn p (push node) :=
  failsIn_of_ok fun page => ⟨(), { page with operands := page.operands.push node }, rfl⟩

/-- A change of the document fails with the errors that it has itself. -/
theorem failsIn_onDocument {change : Document.Change α}
    (h : ∀ doc e after, change doc = .error e after → p (.dom e)) :
    FailsIn p (onDocument change) := by
  intro page e after he
  unfold onDocument at he
  cases hr : change page.document with
  | ok a doc =>
    rw [hr] at he
    cases he
  | error cause doc =>
    rw [hr] at he
    cases he
    exact h page.document cause doc hr

/-! ## Steps that leave the stack alone -/

section Own

variable (hp : ∀ e : EditError, e.isOwn = true → p e)
include hp

/-- A lookup fails for reasons other than the document or the stack. -/
theorem failsIn_lookup (id : NodeId) : FailsIn p (lookup id) := by
  intro page e after he
  unfold lookup Bindings.lookup at he
  cases hl : page.bindings.lookup? id with
  | none =>
    rw [hl] at he
    cases he
    exact hp _ rfl
  | some node =>
    rw [hl] at he
    cases he

/-- A binding fails for reasons other than the document or the stack. -/
theorem failsIn_bindId (id : NodeId) (node : Handle) : FailsIn p (bind id node) := by
  intro page e after he
  rw [bind_eq, Bindings.bind_eq] at he
  split at he
  · rename_i cause hc
    split at hc
    · cases hc
      cases he
      exact hp _ rfl
    · split at hc
      · cases hc
        cases he
        exact hp _ rfl
      · cases hc
  · cases he

theorem failsIn_bindAndPush (id : NodeId) (node : Handle) : FailsIn p (bindAndPush id node) :=
  failsIn_bind (failsIn_bindId hp id node) fun _ => failsIn_push node

/-- A node for a payload is refused for reasons other than the document or the stack. -/
theorem failsIn_seed (value : Payload) : FailsIn p (seed value) := by
  intro page e after he
  unfold seed at he
  split at he
  · split at he
    · cases he
    · cases he
      exact hp _ rfl
  · split at he
    · cases he
      exact hp _ rfl
    · cases he
  · cases he
    exact hp _ rfl

theorem failsIn_setNode (id : NodeId) (value : Payload) : FailsIn p (setNode id value) := by
  apply failsIn_bind (failsIn_seed hp value)
  intro node page e after he
  dsimp only at he
  split at he
  · cases he
    exact hp _ rfl
  · split at he
    · rw [rebind_eq, Bindings.rebind_eq] at he
      cases hl : page.bindings.lookup? id with
      | none =>
        rw [hl] at he
        cases he
        exact hp _ rfl
      | some previous =>
        rw [hl] at he
        cases he
    · exact failsIn_bindId hp id node page e after he

/-- Binding a node and putting it on the stack, with the tally of a creation, fails as the binding
does. -/
theorem failsIn_binding (id : NodeId) (node : Handle) :
    FailsIn p (do
      bindAndPush id node
      return Tally.creation) :=
  failsIn_bind (failsIn_bindAndPush hp id node) fun _ => failsIn_pure _

/-- A node that is made or found and bound to an id fails as finding it and the binding do. -/
theorem failsIn_bound {first : Step Handle} (h : FailsIn p first) (id : NodeId) :
    FailsIn p (do
      let node ← first
      bindAndPush id node
      return Tally.creation) := failsIn_bind h (failsIn_binding hp id)

/-- Putting the node of an id on the stack fails as the lookup does. -/
theorem failsIn_pushRoot (id : NodeId) : FailsIn p (apply (.pushRoot id)) := by
  apply failsIn_bind (failsIn_lookup hp id)
  intro node
  exact failsIn_bind (failsIn_push node) fun _ => failsIn_pure _

/-- Registering a listener fails as the lookup of its id does. -/
theorem failsIn_newEventListener (name : String) (id : NodeId) (handler : Payload) :
    FailsIn p (apply (.newEventListener name id handler)) := by
  apply failsIn_bind (failsIn_lookup hp id)
  exact fun _ => failsIn_bind (failsIn_modify _) fun _ => failsIn_pure _

end Own

section Plain

variable (hp : ∀ e : EditError, e.isPlain = true → p e)
include hp

/-- Stamping a template root fails with plain errors. -/
theorem failsIn_stampRoot (name : String) (index : Nat) : FailsIn p (stampRoot name index) := by
  intro page e after he
  unfold stampRoot Templates.stampRoot Templates.find at he
  cases ht : Keyed.get? page.templates.entries name with
  | none =>
    rw [ht] at he
    cases he
    exact hp _ rfl
  | some template =>
    rw [ht] at he
    dsimp only at he
    cases hi : (page.document.children template.fragment)[index]? with
    | none =>
      rw [hi] at he
      cases he
      exact hp _ rfl
    | some original =>
      rw [hi] at he
      dsimp only [Templates.copyNode] at he
      cases hc : Document.deepClone original page.document with
      | ok copy doc =>
        rw [hc] at he
        cases he
      | error cause doc =>
        rw [hc] at he
        cases he
        exact hp _ (Document.declines_deepClone original _ cause doc hc).2

/-- A change that declines does so with plain errors. -/
theorem failsIn_declining {change : Document.Change α} (h : Document.Declines change) :
    FailsIn p (onDocument change) :=
  failsIn_onDocument fun doc e after hr => hp _ (h doc e after hr).2

theorem failsIn_remove (id : NodeId) : FailsIn p (remove id) := by
  intro page e after he
  unfold remove at he
  split at he
  · cases he
  · rename_i node reached _
    have hdetach := failsIn_declining hp (Document.declines_detach node)
    exact hdetach reached e after he

end Plain

/-! ## Steps that need operands -/

/-- A step that needs some entries on the stack: with fewer it fails for want of them, and with
enough of them it fails with errors of a property only. -/
structure Demands (p : EditError → Prop) (step : Step α) (page : Page) (need : Nat) : Prop where
  short : page.operands.size < need →
    ∃ requested available after, step page = .error (.stackUnderflow requested available) after
  enough : need ≤ page.operands.size → ∀ e after, step page = .error e after → p e

/-- A step that reads no operand demands none. -/
theorem FailsIn.demands {step : Step α} (h : FailsIn p step) (page : Page) :
    Demands p step page 0 := ⟨fun hs => absurd hs (Nat.not_lt_zero _), fun _ => h page⟩

/-- Enough operands are taken off in the order in which they were pushed. -/
theorem popMany_of_le {stack : Operands} {count : Nat} (h : count ≤ stack.size) :
    stack.popMany count = .ok (((stack.slots.take count).map (·.node)).reverse,
      { stack with slots := stack.slots.drop count }) := if_neg (Nat.not_lt.mpr h)

/-- Too few operands are an underflow, and none is taken off. -/
theorem popMany_of_lt (page : Page) {count : Nat} (h : page.operands.size < count) :
    popMany count page = .error (.stackUnderflow count page.operands.size) page :=
  popMany_of_error (if_pos h)

/-- Taking off operands demands as many. -/
theorem demands_popMany (page : Page) (count : Nat) : Demands p (popMany count) page count := by
  constructor
  · exact fun hs => ⟨_, _, _, popMany_of_lt page hs⟩
  · intro hs e after he
    rw [popMany_of_ok (popMany_of_le hs)] at he
    cases he

/-- The top of the stack demands one operand. -/
theorem demands_top (page : Page) : Demands p top page 1 := by
  constructor
  · intro hs
    have hnil : page.operands.slots = [] := List.length_eq_zero_iff.mp (Nat.lt_one_iff.mp hs)
    exact ⟨1, 0, page, top_of_nil hnil⟩
  · intro hs e after he
    cases hslots : page.operands.slots with
    | nil =>
      rw [Operands.size, hslots] at hs
      cases hs
    | cons slot rest =>
      rw [top_of_slots hslots] at he
      cases he

/-- A sequence demands what its first step demands. -/
theorem Demands.bind {first : Step α} {page : Page} {need : Nat} (h : Demands p first page need)
    {next : α → Step β} (h' : ∀ a, FailsIn p (next a)) :
    Demands p (first >>= next) page need := by
  constructor
  · intro hs
    obtain ⟨requested, available, after, he⟩ := h.short hs
    exact ⟨requested, available, after, run_bind_of_error he next⟩
  · intro hs e after he
    cases hr : first page with
    | ok a middle =>
      rw [run_bind_of_ok hr] at he
      exact h' a middle e after he
    | error cause failed =>
      rw [run_bind_of_error hr] at he
      cases he
      exact h.enough hs e after hr

/-- Entries that are taken off and entries that are needed after that are needed together. -/
theorem demands_popMany_bind (page : Page) (count : Nat) {need : Nat}
    {next : List Handle → Step β} (h : ∀ nodes page, Demands p (next nodes) page need) :
    Demands p (popMany count >>= next) page (count + need) := by
  by_cases hs : page.operands.size < count
  · have he := run_bind_of_error (popMany_of_lt page hs) next
    exact ⟨fun _ => ⟨_, _, _, he⟩, fun hn => absurd hn (by omega)⟩
  · have hpop := popMany_of_le (Nat.le_of_not_lt hs)
    have hrun := run_bind_of_ok (popMany_of_ok hpop) next
    have hrest := h ((page.operands.slots.take count).map (·.node)).reverse
      { page with operands := { page.operands with slots := page.operands.slots.drop count } }
    have hsize : (page.operands.slots.drop count).length = page.operands.size - count :=
      List.length_drop ..
    constructor
    · intro hn
      rw [hrun]
      apply hrest.short
      show (page.operands.slots.drop count).length < need
      omega
    · intro hn
      rw [hrun]
      apply hrest.enough
      show need ≤ (page.operands.slots.drop count).length
      omega

section Plain

variable (hp : ∀ e : EditError, e.isPlain = true → p e)
include hp

/-- The target of the reserved id demands one operand, that of another id none. -/
theorem demands_target (page : Page) (id : NodeId) :
    Demands p (target id) page (if id = reservedId then 1 else 0) := by
  unfold target
  split
  · exact demands_top page
  · exact (failsIn_lookup (fun e he => hp e (EditError.isPlain_of_isOwn he)) id).demands page

theorem demands_atPath (page : Page) (path : List Nat) : Demands p (atPath path) page 1 := by
  apply (demands_top page).bind
  intro node page e after he
  dsimp only at he
  split at he
  · cases he
    exact hp _ rfl
  · cases he

/-- Setting an attribute demands what its target demands. -/
theorem demands_setAttribute (page : Page) (id : NodeId) (name : String) (value : Payload)
    (space : Option String) :
    Demands p (setAttribute id name value space) page (if id = reservedId then 1 else 0) := by
  apply (demands_target hp page id).bind
  intro node page e after he
  dsimp only at he
  cases hv : value.attributeText with
  | error cause =>
    rw [hv] at he
    cases he
    cases value <;> cases hv
    exact hp _ rfl
  | ok text =>
    rw [hv] at he
    cases text with
    | some text =>
      have hset := failsIn_declining hp (Document.declines_setAttribute node name space text)
      exact hset page e after he
    | none =>
      dsimp only at he
      cases hr : onDocument (Document.removeAttribute node name space) page with
      | ok removed reached =>
        rw [hr] at he
        cases he
      | error cause failed =>
        rw [hr] at he
        cases he
        have hdrop := failsIn_declining hp (Document.declines_removeAttribute node name space)
        exact hdrop page e after hr

/-- Saving a template demands its operands. -/
theorem demands_saveTemplate
    (hd : ∀ fragment roots doc e after,
      Document.appendChildren fragment roots doc = .error e after → p (.dom e))
    (page : Page) (name : String) (count : Nat) :
    Demands p (saveTemplate name count) page count := by
  apply (demands_popMany page count).bind
  intro roots
  refine failsIn_bind (failsIn_makeNode _) fun fragment => ?_
  refine failsIn_bind (failsIn_onDocument (hd fragment roots)) fun _ => ?_
  intro page e after he
  dsimp only at he
  split at he
  · rename_i cause templates hr
    rw [(registerInPlace_error hr).1] at he
    cases he
    exact hp _ rfl
  · cases he

end Plain

/-! ## Edits that insert nodes -/

section Inserting

variable (hd : ∀ cause, p (.dom cause))
include hd

/-- An insertion at a place that is found without the stack demands its nodes. -/
theorem demands_insertion (page : Page) (count : Nat) {find : Step Handle} {rest : Step Tally}
    {change : Handle → List Handle → Document.Change Unit} (hfind : FailsIn p find)
    (hrest : FailsIn p rest) :
    Demands p (do
      let nodes ← popMany count
      let h ← find
      onDocument (change h nodes)
      rest : Step Tally) page count := by
  apply (demands_popMany page count).bind
  intro nodes
  apply failsIn_bind hfind
  intro h
  exact failsIn_bind (failsIn_onDocument fun _ cause _ _ => hd cause) fun _ => hrest

/-- An insertion at a place that is found with the top of the stack demands that top besides. -/
theorem demands_insertion_at_top (page : Page) (count : Nat) {find : Step Handle}
    {rest : Step Tally} {change : Handle → List Handle → Document.Change Unit}
    (hfind : ∀ page, Demands p find page 1) (hrest : FailsIn p rest) :
    Demands p (do
      let nodes ← popMany count
      let h ← find
      onDocument (change h nodes)
      rest : Step Tally) page (count + 1) := by
  apply demands_popMany_bind page count
  intro nodes page
  apply (hfind page).bind
  intro h
  exact failsIn_bind (failsIn_onDocument fun _ cause _ _ => hd cause) fun _ => hrest

end Inserting

/-- An edit that finds fewer entries on the stack than it needs says so. If it finds enough, it
fails with plain errors only, or with an error of the document if it inserts nodes. -/
theorem demands_apply {p : EditError → Prop} (hp : ∀ e : EditError, e.isPlain = true → p e)
    (page : Page) (edit : Edit) (hd : edit.operandCount? ≠ none → ∀ cause, p (.dom cause)) :
    Demands p (apply edit) page edit.need := by
  have hown : ∀ e : EditError, e.isOwn = true → p e :=
    fun e he => hp e (EditError.isPlain_of_isOwn he)
  cases edit with
  | createElement tag id => exact (failsIn_bound hown (failsIn_makeNode _) id).demands page
  | createElementNs tag id space => exact (failsIn_bound hown (failsIn_makeNode _) id).demands page
  | createTextNode text id => exact (failsIn_bound hown (failsIn_makeNode _) id).demands page
  | createPlaceholder id => exact (failsIn_bound hown (failsIn_makeNode _) id).demands page
  | loadTemplate name index id =>
    exact (failsIn_bound hown (failsIn_stampRoot hp name index) id).demands page
  | setNode id value =>
    exact (failsIn_bind (failsIn_setNode hown id value) fun _ => failsIn_pure _).demands page
  | pushRoot id => exact (failsIn_pushRoot hown id).demands page
  | popRoot => exact (demands_popMany page 1).bind fun _ => failsIn_pure _
  | appendChildren count =>
    exact demands_insertion_at_top (hd nofun) page count demands_top
      (failsIn_bind (failsIn_modify _) fun _ => failsIn_pure _)
  | replaceWith id count =>
    exact demands_insertion (hd nofun) page count (failsIn_lookup hown id)
      (failsIn_bind (failsIn_modify _) fun _ => failsIn_pure _)
  | insertAfter id count | insertBefore id count =>
    exact demands_insertion (hd nofun) page count (failsIn_lookup hown id) (failsIn_pure _)
  | replacePlaceholder path count =>
    exact demands_insertion_at_top (hd nofun) page count (demands_atPath hp · path)
      (failsIn_pure _)
  | remove id =>
    exact (failsIn_bind (failsIn_remove hp id) fun _ => failsIn_pure _).demands page
  | setText id text =>
    apply (demands_target hp page id).bind
    intro node
    exact failsIn_bind (failsIn_declining hp (Document.declines_setText node text))
      fun _ => failsIn_pure _
  | setAttribute id name value space =>
    exact (demands_setAttribute hp page id name value space).bind fun _ => failsIn_pure _
  | removeAttribute id name space =>
    apply (demands_target hp page id).bind
    intro node
    exact failsIn_bind (failsIn_declining hp (Document.declines_removeAttribute node name space))
      fun _ => failsIn_pure _
  | newEventListener name id handler =>
    exact (failsIn_newEventListener hown name id handler).demands page
  | removeEventListener id name =>
    exact (failsIn_bind (failsIn_modify _) fun _ => failsIn_pure _).demands page
  | saveTemplate name count =>
    exact (demands_saveTemplate hp (fun _ _ _ e _ _ => hd nofun e) page name count).bind
      fun _ => failsIn_pure _
  | assignId path id =>
    apply (demands_atPath hp page path).bind
    intro node
    exact failsIn_bind (failsIn_bindId hown id node) fun _ => failsIn_pure _

end Page

end PageHost
