import PageHost.Document.Link
/-!
# Changing the document

The operations that callers use. Each checks its arguments first and changes
nothing when it refuses; the causes of refusal are the constructors of
`DomError`. An operation is a state transformer that gives back the document in
both cases, so that "nothing changed" can be said of a refusal.

A node whose parent does not list it cannot serve as an anchor. The operation
then stops with `unlistedAnchor` after the moved nodes were taken from their
places; this is the one refusal that is not clean.
-/

namespace PageHost

/-- Why an operation on the document is refused. -/
inductive DomError where
  | missingNode (node : Handle)
  | notAContainer (node : Handle)
  | hierarchyRequest (parent child : Handle)
  | detached (node : Handle)
  | wrongKind (node : Handle)
  /-- The node does not stand in the child list of a parent. -/
  | unlistedAnchor (node : Handle)
deriving Repr, DecidableEq

/-- A node in a message. -/
def handleText (h : Handle) : String := "#" ++ toString h

namespace DomError

/-- The text of an error. -/
def message : DomError → String
  | .missingNode node => "missing node " ++ handleText node
  | .notAContainer node => "node " ++ handleText node ++ " cannot hold children"
  | .hierarchyRequest parent child =>
    "inserting " ++ handleText child ++ " under " ++ handleText parent ++ " would break the tree"
  | .detached node => "node " ++ handleText node ++ " has no parent"
  | .wrongKind node => "node " ++ handleText node ++ " has the wrong kind for this operation"
  | .unlistedAnchor node => "node " ++ handleText node ++ " is not listed by its parent"

end DomError

namespace Document

/-- An operation that may be refused. -/
abbrev Change (α : Type) : Type := EStateM DomError Document α

/-! ## What may be moved where -/

/-- The kind of a node that has to exist. -/
def kindOf (doc : Document) (h : Handle) : Except DomError Kind :=
  match doc.kind? h with
  | none => .error (.missingNode h)
  | some kind => .ok kind

/-- The nodes that move: a fragment stands for its children. -/
def flatten (doc : Document) : List Handle → Except DomError (List Handle)
  | [] => .ok []
  | h :: rest =>
    match doc.kindOf h with
    | .error e => .error e
    | .ok kind =>
      match doc.flatten rest with
      | .error e => .error e
      | .ok moved => .ok ((if kind = .fragment then doc.children h else [h]) ++ moved)

/-- Whether every node may become a child: it is no document, not the parent
itself and not above it. -/
def mayAllMove (doc : Document) (parent : Handle) : List Handle → Except DomError Unit
  | [] => .ok ()
  | h :: rest =>
    match doc.kindOf h with
    | .error e => .error e
    | .ok kind =>
      if kind = .document ∨ h = parent ∨ h ∈ doc.ancestors parent then
        .error (.hierarchyRequest parent h)
      else doc.mayAllMove parent rest

/-- The nodes that would move under a parent, if all of them may. -/
def movable (doc : Document) (parent : Handle) (nodes : List Handle) :
    Except DomError (List Handle) :=
  match doc.kindOf parent with
  | .error e => .error e
  | .ok kind =>
    if kind.holdsChildren then
      match doc.flatten nodes with
      | .error e => .error e
      | .ok moved =>
        match doc.mayAllMove parent moved with
        | .error e => .error e
        | .ok () => .ok moved
    else .error (.notAContainer parent)

/-- The parent of a reference node that is not itself to be moved. -/
def anchorParent (doc : Document) (reference : Handle) (nodes : List Handle) :
    Except DomError Handle :=
  if doc.contains reference then
    match doc.parent? reference with
    | none => .error (.detached reference)
    | some parent =>
      if reference ∈ nodes then .error (.hierarchyRequest parent reference) else .ok parent
  else .error (.missingNode reference)

/-- Takes those of the nodes that have a parent out of the tree. -/
def unlinkAll (doc : Document) (nodes : List Handle) : Document :=
  (nodes.filter fun h => (doc.parent? h).isSome).foldl unlink doc

/-- Checks the nodes for a parent and takes them from their places. -/
def prepare (parent : Handle) (nodes : List Handle) : Change (List Handle) := fun doc =>
  match doc.movable parent nodes with
  | .error e => .error e doc
  | .ok moved => .ok moved (doc.unlinkAll moved)

/-- Lifts a check that changes nothing. -/
def check {α : Type} (test : Document → Except DomError α) : Change α := fun doc =>
  match test doc with
  | .error e => .error e doc
  | .ok a => .ok a doc

/-! ## Insertion -/

/-- A list with nodes put in immediately before the first occurrence of an anchor. -/
def spliceBefore (anchor : Handle) (nodes siblings : List Handle) : List Handle :=
  siblings.takeWhile (fun h => !decide (h = anchor)) ++ nodes ++
    siblings.dropWhile (fun h => !decide (h = anchor))

/-- Links nodes before an anchor under the parent of the anchor. -/
def linkBefore (anchor : Handle) (nodes : List Handle) : Change Unit := fun doc =>
  match doc.parent? anchor with
  | none => .error (.unlistedAnchor anchor) doc
  | some parent =>
    if anchor ∈ doc.children parent then
      .ok () (doc.link parent (spliceBefore anchor nodes) nodes)
    else .error (.unlistedAnchor anchor) doc

/-- Links nodes at the end of a parent. -/
def linkLast (parent : Handle) (nodes : List Handle) : Change Unit := fun doc =>
  .ok () (doc.link parent (· ++ nodes) nodes)

/-- The sibling after a node. -/
def nextSibling? (doc : Document) (parent h : Handle) : Option Handle :=
  ((doc.children parent).dropWhile (fun c => !decide (c = h)))[1]?

/-- Adds nodes at the end of a parent. -/
def appendChildren (parent : Handle) (nodes : List Handle) : Change Unit := do
  let moved ← prepare parent nodes
  linkLast parent moved

/-- Puts nodes before a reference node. -/
def insertBefore (reference : Handle) (nodes : List Handle) : Change Unit := do
  let parent ← check fun doc => doc.anchorParent reference nodes
  let moved ← prepare parent nodes
  linkBefore reference moved

/-- Puts nodes after a reference node. -/
def insertAfter (reference : Handle) (nodes : List Handle) : Change Unit := do
  let parent ← check fun doc => doc.anchorParent reference nodes
  let moved ← prepare parent nodes
  let doc ← get
  match doc.nextSibling? parent reference with
  | some next => linkBefore next moved
  | none => linkLast parent moved

/-- Puts nodes where a node was and takes that node out. -/
def replaceWith (old : Handle) (nodes : List Handle) : Change Unit := do
  let parent ← check fun doc => doc.anchorParent old nodes
  let moved ← prepare parent nodes
  linkBefore old moved
  modify fun doc => doc.unlink old

/-- Takes a node out of the tree; whether it was in one. -/
def detach (h : Handle) : Change Bool := fun doc =>
  if doc.contains h then
    if (doc.parent? h).isSome then .ok true (doc.unlink h) else .ok false doc
  else .error (.missingNode h) doc

/-! ## Text and attributes -/

/-- Gives a node other content of its kind. -/
def setContent (doc : Document) (h : Handle) (content : Content) : Document :=
  { doc with nodes := doc.nodes.rewrite h content }

/-- Replaces the children of a container by one text, by none if it is empty. -/
def replaceChildren (doc : Document) (h : Handle) (text : String) : Document :=
  let emptied := (doc.children h).foldl unlink doc
  if text = "" then emptied
  else
    let (t, made) := emptied.create (.text text)
    made.link h (· ++ [t]) [t]

/-- Sets the text of a text or comment, or the whole content of a container. -/
def setText (h : Handle) (text : String) : Change Unit := fun doc =>
  match doc.kindOf h with
  | .error e => .error e doc
  | .ok .placeholder => .error (.wrongKind h) doc
  | .ok .comment => .ok () (doc.setContent h (.comment text))
  | .ok .text => .ok () (doc.setContent h (.text text))
  | .ok _ => .ok () (doc.replaceChildren h text)

/-- The namespace that an attribute gets: the empty text counts as none. -/
def attributeSpace (space : Option String) : Option String :=
  match space with
  | some "" => none
  | space => space

/-- Writes an attribute: in place where one of this name and namespace exists,
else at the end. -/
def writeAttribute (attributes : List Attribute) (a : Attribute) : List Attribute :=
  match attributes with
  | [] => [a]
  | b :: rest =>
    if b.name = a.name ∧ b.space = a.space then { b with value := a.value } :: rest
    else b :: writeAttribute rest a

/-- Drops the first attribute of a name and namespace. -/
def dropAttribute (attributes : List Attribute) (name : String) (space : Option String) :
    List Attribute :=
  attributes.eraseP fun a => a.name == name && a.space == space

/-- The attributes that a live `input` gets besides the one that is set: a
truth value for `checked` is noted once more in HTML's namespace. -/
def notedState (name : ElementName) (live : Bool) (a : Attribute) : List Attribute :=
  if live ∧ name.tag = "input" ∧ a.name = "checked" ∧ (a.value = "true" ∨ a.value = "false") then
    [ownAttribute "checked" a.value]
  else []

/-- Sets an attribute of an element. -/
def setAttribute (h : Handle) (name : String) (space : Option String) (value : String) :
    Change Unit := fun doc =>
  match doc.node? h with
  | none => .error (.missingNode h) doc
  | some node =>
    match node.content with
    | .element element attributes =>
      let a : Attribute := ⟨name, attributeSpace space, value⟩
      .ok () (doc.setContent h
        (.element element (writeAttribute attributes a ++ notedState element node.live a)))
    | _ => .error (.wrongKind h) doc

/-- Removes an attribute of an element; whether there was one. No attribute has
the empty text for its namespace. -/
def removeAttribute (h : Handle) (name : String) (space : Option String) : Change Bool := fun doc =>
  match doc.node? h with
  | none => .error (.missingNode h) doc
  | some node =>
    match node.content with
    | .element element attributes =>
      if attributes.any fun a => a.name == name && a.space == space then
        .ok true (doc.setContent h (.element element (dropAttribute attributes name space)))
      else .ok false doc
    | _ => .error (.wrongKind h) doc

/-! ## Copies -/

/-- Copies a node and all below it into fresh nodes that have no place in the tree. -/
def deepClone (h : Handle) : Change Handle := fun doc =>
  match copyWithin doc.size none doc h with
  | none => .error (.missingNode h) doc
  | some (copy, copied) => .ok copy (copyMarkers doc.size copied h copy)

end Document

end PageHost
