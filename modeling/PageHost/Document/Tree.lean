import PageHost.Document.Basic
/-!
# Trees

A `Tree` is what lies under a node, without the node's number and its place:
contents and children only. Text, markup, comparison and copies are about trees.
The tree under a node is read off the store to a depth of the number of nodes,
which is enough as long as no node is below itself.
-/

namespace PageHost

/-- Contents arranged as a finite ordered tree. -/
inductive Tree where
  | node (content : Content) (children : List Tree)

namespace Document

/-- The tree under a node to a depth. -/
def treeWithin (doc : Document) : Nat → Handle → Option Tree
  | 0, _ => none
  | depth + 1, h =>
    match doc.node? h with
    | none => none
    | some node => some (.node node.content (node.children.filterMap (doc.treeWithin depth)))

/-- The tree under a node; none if the node is missing. -/
def tree? (doc : Document) (h : Handle) : Option Tree := doc.treeWithin doc.size h

end Document

namespace Tree

/-- The content at the top. -/
def content : Tree → Content
  | .node content _ => content

/-- The trees below the top. -/
def children : Tree → List Tree
  | .node _ children => children

mutual

/-- The text in a tree: a text's own data, and below an element or a fragment
the texts of its children one after the other. -/
def text : Tree → List Char
  | .node (.text data) _ => data.toList
  | .node (.element _ _) children => textAll children
  | .node .fragment children => textAll children
  | .node _ _ => []

/-- The texts of several trees one after the other. -/
def textAll : List Tree → List Char
  | [] => []
  | t :: rest => text t ++ textAll rest

end

/-- Attributes in the order of their names. Those of one name come in the order of
their namespaces, none first, and then in the order of their values. -/
def sortAttributes (attributes : List Attribute) : List Attribute :=
  attributes.mergeSort fun a b => (compare a b).isLE

/-- Whether two nodes agree apart from their children. The attributes of elements
are compared as sorted lists, so they may come in any order. -/
def sameContent : Content → Content → Bool
  | .element name attributes, .element name' attributes' =>
    name == name' && sortAttributes attributes == sortAttributes attributes'
  | a, b => a == b

mutual

/-- Whether two trees agree node by node. -/
def agrees : Tree → Tree → Bool
  | .node a children, .node b children' => sameContent a b && agreesAll children children'

/-- Whether two lists of trees agree one by one. -/
def agreesAll : List Tree → List Tree → Bool
  | [], [] => true
  | t :: rest, t' :: rest' => agrees t t' && agreesAll rest rest'
  | _, _ => false

end

end Tree

namespace Document

/-- The text under a node. -/
def textContent (doc : Document) (h : Handle) : String :=
  match doc.tree? h with
  | none => ""
  | some tree => String.ofList tree.text

/-- Whether two nodes exist and have the same structure under them. -/
def structurallyEqual (doc : Document) (a b : Handle) : Bool :=
  match doc.tree? a, doc.tree? b with
  | some left, some right => left.agrees right
  | _, _ => false

end Document

end PageHost
