import PageHost.Operands
import PageHost.Template
import PageHost.Edit.AttributeText
import PageHost.Event.Delegation
/-!
# The page

A page is a document together with what the engine needs to address it: the
bindings of ids, the operand stack, the templates and the delegation of events.
`Page.apply` carries out one edit and `Page.applyBatch` a list of them. The
first edit that fails ends the batch; what came before it stays, the operand
stack is emptied, and the engine is told where it failed and why.
-/

namespace PageHost

/-- A live page. -/
structure Page where
  document : Document
  bindings : Bindings
  operands : Operands
  templates : Templates
  delegation : Delegation
  /-- Whether a batch must not leave operands behind. -/
  strict : Bool

/-- What a batch did. -/
structure Tally where
  /-- Edits carried out. -/
  applied : Nat
  /-- Nodes created by an id. -/
  created : Nat
  /-- Nodes taken off the page by an id. -/
  removed : Nat
deriving Repr, DecidableEq

namespace Tally

/-- Nothing done. -/
def zero : Tally := ⟨0, 0, 0⟩

/-- Both together. -/
def add (a b : Tally) : Tally :=
  ⟨a.applied + b.applied, a.created + b.created, a.removed + b.removed⟩

/-- One edit that neither creates nor removes. -/
def plain : Tally := ⟨1, 0, 0⟩

/-- One edit that creates a node. -/
def creation : Tally := ⟨1, 1, 0⟩

/-- One edit that removes a node. -/
def removal : Tally := ⟨1, 0, 1⟩

end Tally

namespace Page

/-- A step of the page that can fail. -/
abbrev Step (α : Type) : Type := EStateM EditError Page α

/-- The page over a document, with nothing bound. -/
def ofDocument (document : Document) (strict : Bool) : Page :=
  ⟨document, .empty, .empty, .empty, .empty, strict⟩

/-! ## Steps on parts of the page -/

/-- Lifts an operation of the document. -/
def onDocument {α : Type} (change : Document.Change α) : Step α := fun page =>
  match change page.document with
  | .ok a document => .ok a { page with document := document }
  | .error e document => .error (.dom e) { page with document := document }

/-- Lifts a call on the bindings. -/
def onBindings {α : Type} (call : EStateM EditError Bindings α) : Step α := fun page =>
  match call page.bindings with
  | .ok a bindings => .ok a { page with bindings := bindings }
  | .error e bindings => .error e { page with bindings := bindings }

/-- Makes a node. -/
def makeNode (make : Document → Handle × Document) : Step Handle := fun page =>
  let (h, document) := make page.document
  .ok h { page with document := document }

/-- The node that an id names. -/
def lookup (id : NodeId) : Step Handle := fun page =>
  match page.bindings.lookup id with
  | .error e => .error e page
  | .ok node => .ok node page

/-- Binds an id. -/
def bind (id : NodeId) (node : Handle) : Step Unit := onBindings (Bindings.bindInPlace id node)

/-- Puts a node on the stack. -/
def push (node : Handle) : Step Unit := fun page =>
  .ok () { page with operands := page.operands.push node }

/-- Takes nodes off the stack. -/
def popMany (count : Nat) : Step (List Handle) := fun page =>
  match page.operands.popMany count with
  | .error e => .error e page
  | .ok (nodes, operands) => .ok nodes { page with operands := operands }

/-- The node on top of the stack. -/
def top : Step Handle := fun page =>
  match page.operands.top with
  | .error e => .error e page
  | .ok node => .ok node page

/-- Takes back the registrations of an id. -/
def forget (page : Page) (id : NodeId) : Page :=
  let (_, delegation, document) := page.delegation.forget page.document id
  { page with delegation := delegation, document := document }

/-- Releases an id with its registrations; the node that it named. -/
def release (page : Page) (id : NodeId) : Option Handle × Page :=
  match page.bindings.unbind id with
  | (none, _) => (none, page)
  | (some node, bindings) => (some node, { page with bindings := bindings }.forget id)

/-- Binds a fresh node and puts it on the stack. -/
def bindAndPush (id : NodeId) (node : Handle) : Step Unit := do
  bind id node
  push node

/-- The node that an id means as a target: 0 is the top of the stack. -/
def target (id : NodeId) : Step Handle := if id = reservedId then top else lookup id

/-- The node at a path from the top of the stack. -/
def atPath (path : List Nat) : Step Handle := do
  let start ← top
  fun page =>
    match page.document.atPath start path with
    | none => .error (.invalidPath path) page
    | some node => .ok node page

/-- The node of the page that a payload names: by its number or by the `id`
attribute of an element on the page. -/
def seed (value : Payload) : Step Handle := fun page =>
  match value with
  | .handle node =>
    if page.document.contains node then .ok node page else .error (.invalidPayload "handle") page
  | .text id =>
    match page.document.elementById id with
    | none => .error (.invalidPayload "text") page
    | some node => .ok node page
  | other => .error (.invalidPayload other.kind) page

/-- Makes an id name a node of the page. An id that named another node before
loses its registrations. -/
def setNode (id : NodeId) (value : Payload) : Step Unit := do
  let node ← seed value
  fun page =>
    if page.templates.owns page.document node then .error (.templateNode node) page
    else if page.bindings.contains id then
      match onBindings (Bindings.rebindInPlace id node) page with
      | .error e page => .error e page
      | .ok previous page => .ok () (if previous = node then page else page.forget id)
    else bind id node page

/-- Moves nodes into a fresh fragment, releases the ids inside, and registers
the fragment as a template. -/
def saveTemplate (name : String) (count : Nat) : Step Unit := do
  let roots ← popMany count
  let fragment ← makeNode fun doc => doc.create .fragment
  onDocument (Document.appendChildren fragment roots)
  fun page =>
    let inside := page.document.descendants fragment
    let (released, bindings) := page.bindings.unbindWhere inside.contains
    let page := released.foldl forget { page with bindings := bindings }
    match Templates.registerInPlace page.document name fragment page.templates with
    | .error e templates => .error e { page with templates := templates }
    | .ok _ templates => .ok () { page with templates := templates }

/-- A fresh copy of a child of a template. -/
def stampRoot (name : String) (index : Nat) : Step Handle := fun page =>
  match page.templates.stampRoot name index page.document with
  | .ok node document => .ok node { page with document := document }
  | .error e document => .error e { page with document := document }

/-- Writes or removes an attribute as a payload says. -/
def setAttribute (id : NodeId) (name : String) (value : Payload) (space : Option String) :
    Step Unit := do
  let node ← target id
  fun page =>
    match value.attributeText with
    | .error e => .error e page
    | .ok (some text) => onDocument (Document.setAttribute node name space text) page
    | .ok none =>
      match onDocument (Document.removeAttribute node name space) page with
      | .error e page => .error e page
      | .ok _ page => .ok () page

/-- Takes off the page what an id names and releases the id; no node for an
unbound id. Whether the node was in the tree. -/
def remove (id : NodeId) : Step Bool := fun page =>
  match page.release id with
  | (none, page) => .ok false page
  | (some node, page) => onDocument (Document.detach node) page

/-! ## Edits -/

/-- Carries out one edit. -/
def apply : Edit → Step Tally
  | .createElement tag id => do
    let node ← makeNode fun doc => doc.createElement tag none
    bindAndPush id node
    return .creation
  | .createElementNs tag id space => do
    let node ← makeNode fun doc => doc.createElement tag (some space)
    bindAndPush id node
    return .creation
  | .createTextNode text id => do
    let node ← makeNode fun doc => doc.create (.text text)
    bindAndPush id node
    return .creation
  | .createPlaceholder id => do
    let node ← makeNode fun doc => doc.create .placeholder
    bindAndPush id node
    return .creation
  | .setNode id value => do
    setNode id value
    return .plain
  | .pushRoot id => do
    let node ← lookup id
    push node
    return .plain
  | .popRoot => do
    let _ ← popMany 1
    return .plain
  | .appendChildren count => do
    let children ← popMany count
    let parent ← top
    onDocument (Document.appendChildren parent children)
    modify fun page => { page with operands := page.operands.markParent }
    return .plain
  | .replaceWith id count => do
    let nodes ← popMany count
    let old ← lookup id
    onDocument (Document.replaceWith old nodes)
    modify fun page => (page.release id).2
    return .removal
  | .insertAfter id count => do
    let nodes ← popMany count
    let reference ← lookup id
    onDocument (Document.insertAfter reference nodes)
    return .plain
  | .insertBefore id count => do
    let nodes ← popMany count
    let reference ← lookup id
    onDocument (Document.insertBefore reference nodes)
    return .plain
  | .remove id => do
    let moved ← remove id
    return if moved then .removal else .plain
  | .setText id text => do
    let node ← target id
    onDocument (Document.setText node text)
    return .plain
  | .setAttribute id name value space => do
    setAttribute id name value space
    return .plain
  | .removeAttribute id name space => do
    let node ← target id
    let _ ← onDocument (Document.removeAttribute node name space)
    return .plain
  | .newEventListener name id handler => do
    let _ ← lookup id
    modify fun page =>
      let (_, delegation, document) := page.delegation.listen page.document id name handler
      { page with delegation := delegation, document := document }
    return .plain
  | .removeEventListener id name => do
    modify fun page =>
      let (_, delegation, document) := page.delegation.unlisten page.document id name
      { page with delegation := delegation, document := document }
    return .plain
  | .saveTemplate name count => do
    saveTemplate name count
    return .plain
  | .loadTemplate name index id => do
    let node ← stampRoot name index
    bindAndPush id node
    return .creation
  | .assignId path id => do
    let node ← atPath path
    bind id node
    return .plain
  | .replacePlaceholder path count => do
    let nodes ← popMany count
    let placeholder ← atPath path
    onDocument (Document.replaceWith placeholder nodes)
    return .plain

/-! ## Batches -/

/-- The page with nothing on the stack. -/
def clearOperands (page : Page) : Page := { page with operands := page.operands.clear }

/-- The end of a batch of a given length: a strict page takes everything off the
stack and reports entries that are left over. -/
def finish (length : Nat) (tally : Tally) : EStateM BatchError Page Tally := fun page =>
  if page.strict then
    let depth := page.operands.unconsumed
    if 0 < depth then .error ⟨length, "end_of_batch", .residualStack depth⟩ page.clearOperands
    else .ok tally page.clearOperands
  else .ok tally page

/-- Carries out edits from a position on, after those that are tallied. -/
def applyFrom (index : Nat) (tally : Tally) : List Edit → EStateM BatchError Page Tally
  | [] => finish index tally
  | edit :: rest => fun page =>
    match apply edit page with
    | .error e page => .error ⟨index, edit.opcode, e⟩ page.clearOperands
    | .ok done page => applyFrom (index + 1) (tally.add done) rest page

/-- Carries out a batch. -/
def applyBatch (edits : List Edit) : EStateM BatchError Page Tally := applyFrom 0 .zero edits

/-- What an event leads to. -/
def dispatch (page : Page) (event : NativeEvent) : Outcome :=
  page.delegation.dispatch page.document page.bindings event

/-- The blank page whose body holds the mount point, an element `main` with that id. -/
def mounted : Document :=
  let (main, doc) := Document.blank.createElement "main" none
  let doc := doc.setContent main
    (.element ⟨"main", none⟩ [⟨"id", none, "main"⟩])
  doc.link Document.body (· ++ [main]) [main]

end Page

end PageHost
