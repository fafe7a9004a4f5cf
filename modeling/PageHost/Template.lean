import PageHost.Keyed
import PageHost.Outcome
import PageHost.Edit.Error
/-!
# Templates

A template is a fragment that is registered under a name and never used itself:
every use stamps a fresh copy. The places of its placeholders are recorded when
it is registered and found again in each copy.
-/

namespace PageHost

namespace Tree

mutual

/-- The paths of the placeholders in a tree, in document order. -/
def slots : Tree → List (List Nat)
  | .node content children =>
    (if content = .placeholder then [[]] else []) ++ slotsFrom 0 children

/-- The paths of the placeholders in trees that are children from a position on. -/
def slotsFrom (position : Nat) : List Tree → List (List Nat)
  | [] => []
  | t :: rest => (slots t).map (position :: ·) ++ slotsFrom (position + 1) rest

end

end Tree

/-- A registered template. -/
structure Template where
  /-- The fragment that copies are made of. -/
  fragment : Handle
  /-- The paths from the fragment to its placeholders, in document order. -/
  slots : List (List Nat)
deriving Repr, DecidableEq

/-- A fresh copy of a template. -/
structure Stamp where
  fragment : Handle
  /-- The children of the copy. -/
  roots : List Handle
  /-- The placeholders of the copy, in document order. -/
  slots : List Handle
deriving Repr, DecidableEq

/-- The templates by name. -/
structure Templates where
  entries : Keyed String Template
deriving Repr, DecidableEq

namespace Templates

/-- No template is registered. -/
def empty : Templates := ⟨[]⟩

/-- The template of a name, or the error for an unknown one. -/
def find (templates : Templates) (name : String) : Except EditError Template :=
  match Keyed.get? templates.entries name with
  | none => .error (.unknownTemplate name)
  | some template => .ok template

/-- Whether a name is registered. -/
def contains (templates : Templates) (name : String) : Bool := Keyed.has templates.entries name

/-- The number of templates. -/
def size (templates : Templates) : Nat := templates.entries.length

/-- Whether there are no templates. -/
def isEmpty (templates : Templates) : Bool := templates.entries.isEmpty

/-- The fragment registered under a name. -/
def canonical (templates : Templates) (name : String) : Except EditError Handle :=
  match templates.find name with
  | .error e => .error e
  | .ok template => .ok template.fragment

/-- The paths of the placeholders under a node. -/
def slotsUnder (doc : Document) (h : Handle) : List (List Nat) :=
  match doc.tree? h with
  | none => []
  | some tree => tree.slots

/-- Registers a fragment; whether the name was new. A known name is accepted
again, without effect, for a fragment of the same structure. -/
def registerInPlace (doc : Document) (name : String) (fragment : Handle) :
    EStateM EditError Templates Bool := fun templates =>
  match Keyed.get? templates.entries name with
  | some existing =>
    if doc.structurallyEqual existing.fragment fragment then .ok false templates
    else .error (.templateRedefinition name) templates
  | none =>
    .ok true ⟨Keyed.set templates.entries name ⟨fragment, slotsUnder doc fragment⟩⟩

/-- The templates with one more name or without, as the name was new or not, or
why the fragment cannot be registered. -/
def register (templates : Templates) (doc : Document) (name : String) (fragment : Handle) :
    Except EditError (Bool × Templates) :=
  outcome (registerInPlace doc name fragment) templates

/-- Copies a node; the errors of the document are errors of the edit. -/
def copyNode (h : Handle) : EStateM EditError Document Handle := fun doc =>
  match Document.deepClone h doc with
  | .ok copy doc => .ok copy doc
  | .error e doc => .error (.dom e) doc

/-- Copies a whole template. -/
def stamp (templates : Templates) (name : String) : EStateM EditError Document Stamp := fun doc =>
  match templates.find name with
  | .error e => .error e doc
  | .ok template =>
    match copyNode template.fragment doc with
    | .error e doc => .error e doc
    | .ok fragment doc =>
      .ok ⟨fragment, doc.children fragment, template.slots.filterMap (doc.atPath fragment)⟩ doc

/-- Copies one child of a template. -/
def stampRoot (templates : Templates) (name : String) (index : Nat) :
    EStateM EditError Document Handle := fun doc =>
  match templates.find name with
  | .error e => .error e doc
  | .ok template =>
    match (doc.children template.fragment)[index]? with
    | none => .error (.templateRootOutOfRange name index) doc
    | some top => copyNode top doc

/-- Whether a node is the fragment of a template or lies below one. -/
def owns (templates : Templates) (doc : Document) (h : Handle) : Bool :=
  (h :: doc.ancestors h).any fun candidate =>
    templates.entries.any fun entry => decide (entry.2.fragment = candidate)

end Templates

end PageHost
