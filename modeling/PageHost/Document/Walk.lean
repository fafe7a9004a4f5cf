import PageHost.Document.Basic
/-!
# Walking the document

Upwards along parents, downwards along child lists. Each walk is bounded by the
number of nodes, which is enough as long as no node is above itself.
-/

namespace PageHost.Document

/-- The first `bound` nodes above a node, nearest first. -/
def ancestorsWithin (doc : Document) : Nat → Handle → List Handle
  | 0, _ => []
  | bound + 1, h =>
    match doc.parent? h with
    | none => []
    | some p => p :: doc.ancestorsWithin bound p

/-- The nodes above a node, nearest first. -/
def ancestors (doc : Document) (h : Handle) : List Handle := doc.ancestorsWithin doc.size h

/-- Whether a node is the page's root or lies below it. -/
def isConnected (doc : Document) (h : Handle) : Bool :=
  h == root || (doc.ancestors h).contains root

/-- Visits the nodes on a stack, the top first; the children of a visited node
go onto the stack so that the first child is visited next. None when the bound
on the number of visits is reached with nodes left to visit. -/
def visit (doc : Document) : Nat → List Handle → Option (List Handle)
  | _, [] => some []
  | 0, _ :: _ => none
  | bound + 1, h :: stack =>
    match doc.node? h with
    | none => doc.visit bound stack
    | some node => (doc.visit bound (node.children ++ stack)).map (h :: ·)

/-- A node and all below it in document order. -/
def descendants (doc : Document) (h : Handle) : List Handle :=
  (doc.visit (doc.size + 1) [h]).getD []

/-- Follows child positions downwards. -/
def atPath (doc : Document) : Handle → List Nat → Option Handle
  | h, [] => some h
  | h, i :: path => ((doc.children h)[i]?).bind fun child => doc.atPath child path

/-- The first element on the page, in document order, whose `id` attribute has this value. -/
def elementById (doc : Document) (id : String) : Option Handle :=
  (doc.descendants root).find? fun h => doc.attribute? h "id" == some id

end PageHost.Document
