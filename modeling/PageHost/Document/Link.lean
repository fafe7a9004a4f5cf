import PageHost.Document.Walk
import PageHost.Document.Tree
/-!
# Links between nodes

Two steps change the tree: `unlink` takes a node out of its parent's list, and
`link` puts nodes into a list and makes them children one after the other.
Together with copies below a fresh node they are all there is. Form buttons get
their inner nodes when they come onto the page: `enter` holds that rule.

Neither step looks for cycles; `Document.Change` does so before it uses them.

A copy is made in two walks. The first one copies what the store keeps, and the
second one goes down the original and the copy side by side and notes about each
copied node what is noted about its original.
-/

namespace PageHost.Document

/-- Marks a node and all below it as part of the page or not. -/
def markLive (doc : Document) (h : Handle) (live : Bool) : Document :=
  (doc.descendants h).foldl (fun doc d => doc.update d fun place => { place with live := live }) doc

/-- Drops a child from the list of a node. -/
def dropChild (doc : Document) (parent child : Handle) : Document :=
  doc.update parent fun place =>
    { place with children := place.children.filter fun c => !decide (c = child) }

/-- Takes a node out of the tree. What lies below it stays below it. -/
def unlink (doc : Document) (h : Handle) : Document :=
  let cut := match doc.parent? h with
    | none => doc
    | some p => (doc.update h fun place => { place with parent := none }).dropChild p h
  cut.markLive h false

/-- Makes a live node as the last child of a live node. -/
def createBelow (doc : Document) (parent : Handle) (content : Content) : Handle × Document :=
  let child := doc.size
  (child, (doc.push ⟨content, some parent, [], true⟩).update parent fun place =>
    { place with children := place.children ++ [child] })

/-- An attribute of a button made by the page itself. -/
def ownAttribute (name value : String) : Attribute := ⟨name, some htmlSpace, value⟩

/-- Fills an `input` that has come onto the page. A push button shows its value
as a text. A file control gets a button and a label with their captions. Other
nodes stay as they are. -/
def fillControl (doc : Document) (h : Handle) : Document :=
  if doc.tag? h = some "input" then
    match doc.attribute? h "type" with
    | some kind =>
      if kind = "button" ∨ kind = "submit" ∨ kind = "reset" then
        match doc.attribute? h "value" with
        | none => doc
        | some value => (doc.createBelow h (.text value)).2
      else if kind = "file" then
        let (button, doc) := doc.createBelow h
          (.element ⟨"button", none⟩ [ownAttribute "type" "button", ownAttribute "tabindex" "-1"])
        let (label, doc) := doc.createBelow h (.element ⟨"label", none⟩ [])
        let doc := (doc.createBelow label (.text "No File Selected")).2
        (doc.createBelow button (.text "Browse")).2
      else doc
    | none => doc
  else doc

/-- A node and all below it come onto the page. -/
def enter (doc : Document) (h : Handle) : Document :=
  (doc.descendants h).foldl fillControl (doc.markLive h true)

/-- Makes a listed node a child: its parent is set, it enters the page if that
changes whether it is live, and the parent that it had drops it. -/
def adopt (parent : Handle) (doc : Document) (child : Handle) : Document :=
  let old := doc.parent? child
  let moved := doc.update child fun place => { place with parent := some parent }
  let entered := if doc.live parent ≠ doc.live child then moved.enter child else moved
  match old with
  | none => entered
  | some p => entered.dropChild p child

/-- Puts nodes into a child list and then adopts them one after the other. A
node that occurs twice is adopted twice, and the second time its new parent is
also the old one, which drops it. -/
def link (doc : Document) (parent : Handle) (place : List Handle → List Handle)
    (nodes : List Handle) : Document :=
  nodes.foldl (adopt parent)
    (doc.update parent fun own => { own with children := place own.children })

/-! ## Copies -/

/-- Copies nodes one after the other; what cannot be copied is left out. -/
def copyEach (copy : Document → Handle → Option (Handle × Document)) (doc : Document) :
    List Handle → List Handle × Document
  | [] => ([], doc)
  | h :: rest =>
    match copy doc h with
    | none => copyEach copy doc rest
    | some (c, doc) =>
      let (cs, doc) := copyEach copy doc rest
      (c :: cs, doc)

/-- The first walk, to a depth: copies what the store keeps of a node and of all
below it, a node before its children, the children in order, none of them live.
Nothing is noted about the copies. -/
def copyWithin : Nat → Option Handle → Document → Handle → Option (Handle × Document)
  | 0, _, _, _ => none
  | depth + 1, parent, doc, h =>
    match doc.nodes.records[h]? with
    | none => none
    | some record =>
      let top := doc.size
      let (below, copied) := copyEach (copyWithin depth (some top))
        (doc.pushRecord ⟨record.data, parent, [], false⟩) record.place.children
      some (top, copied.update top fun place => { place with children := below })

/-- Notes about a copy what is noted about its original. -/
def carryMarkers (doc : Document) (source copy : Handle) : Document :=
  { doc with nodes := doc.nodes.carry source copy }

/-- The second walk, to a depth: carries over what is noted about a node and
about all below it, pairing the children of both nodes by their positions. -/
def copyMarkers : Nat → Document → Handle → Handle → Document
  | 0, doc, _, _ => doc
  | depth + 1, doc, source, copy =>
    ((doc.children source).zip (doc.children copy)).foldl
      (fun doc pair => copyMarkers depth doc pair.1 pair.2) (doc.carryMarkers source copy)

end PageHost.Document
