import PageHost.Keyed
/-!
# The document

Nodes live in a store and are numbered in the order in which they are made. A
node is never freed: taking it off the page clears its place in the tree and
keeps it in the store. A node knows its parent, its children, and whether it is
live, that is, whether it counts as part of the page.

The store has documents, elements, texts and comments only. Three tables beside
it hold what it does not model: which of the elements are fragments, which of the
comments are placeholders, and the texts of the other comments. A node is read
through the store and the tables together. The document also carries the names of
the events that the page listens for at its root.

Styles, layout and scripts are not covered.
-/

namespace PageHost

/-- The number of a node. -/
abbrev Handle := Nat

/-- The namespace of HTML elements. -/
def htmlSpace : String := "http://www.w3.org/1999/xhtml"

/-- The name of an element. -/
structure ElementName where
  tag : String
  /-- The namespace; none for HTML. -/
  space : Option String
deriving Repr, DecidableEq

/-- An attribute of an element. -/
structure Attribute where
  name : String
  /-- The namespace; none when there is none or it is the empty text. -/
  space : Option String
  value : String
deriving Repr, DecidableEq

/-- Attributes are ordered field by field. -/
instance Attribute.instOrd : Ord Attribute where
  compare := compareLex (compareOn (·.name)) (compareLex (compareOn (·.space)) (compareOn (·.value)))

/-- What a node is and the data of its own. -/
inductive Content where
  | document
  /-- A container that gives up its children when it is inserted. -/
  | fragment
  | element (name : ElementName) (attributes : List Attribute)
  | text (data : String)
  | comment (data : String)
  /-- Stands in for content that is not there yet. -/
  | placeholder
deriving Repr, DecidableEq

/-- The kind of a node. -/
inductive Kind where
  | document
  | fragment
  | element
  | text
  | comment
  | placeholder
deriving Repr, DecidableEq

namespace Kind

/-- The name of a kind. -/
def name : Kind → String
  | .document => "document"
  | .fragment => "fragment"
  | .element => "element"
  | .text => "text"
  | .comment => "comment"
  | .placeholder => "placeholder"

/-- Whether nodes of this kind can have children. -/
def holdsChildren : Kind → Bool
  | .document | .fragment | .element => true
  | .text | .comment | .placeholder => false

end Kind

namespace Content

/-- The kind of a node with this content. -/
def kind : Content → Kind
  | .document => .document
  | .fragment => .fragment
  | .element _ _ => .element
  | .text _ => .text
  | .comment _ => .comment
  | .placeholder => .placeholder

/-- The name of an element. -/
def elementName? : Content → Option ElementName
  | .element name _ => some name
  | _ => none

/-- The attributes of an element; no other node has any. -/
def attributes : Content → List Attribute
  | .element _ attributes => attributes
  | _ => []

/-- The value of the first attribute with this local name, whatever its namespace. -/
def attribute? (content : Content) (name : String) : Option String :=
  (content.attributes.find? fun a => a.name == name).map (·.value)

end Content

/-- What the store keeps of a node's own. The text of a comment is not part of it. -/
inductive NodeData where
  | document
  | element (name : ElementName) (attributes : List Attribute)
  | text (data : String)
  | comment
deriving Repr, DecidableEq

/-- What the store keeps of a node with this content: a fragment is an element
for it, and a placeholder is a comment. -/
def Content.data : Content → NodeData
  | .document => .document
  | .fragment => .element ⟨"fragment", none⟩ []
  | .element name attributes => .element name attributes
  | .text data => .text data
  | .comment _ => .comment
  | .placeholder => .comment

/-- What a node with these data is if no table says otherwise. A comment has the text
that is noted, or none. -/
def NodeData.content (data : NodeData) (text : Option String) : Content :=
  match data with
  | .document => .document
  | .element name attributes => .element name attributes
  | .text data => .text data
  | .comment => .comment (text.getD "")

/-- Where a node stands. -/
structure Place where
  parent : Option Handle
  children : List Handle
  /-- Whether the node counts as part of the page. -/
  live : Bool
deriving Repr, DecidableEq

/-- A node as it is read: what it is and where it stands. -/
structure Node where
  content : Content
  place : Place
deriving Repr, DecidableEq

namespace Node

/-- The parent of a node. -/
abbrev parent (node : Node) : Option Handle := node.place.parent

/-- The children of a node, in order. -/
abbrev children (node : Node) : List Handle := node.place.children

/-- Whether a node counts as part of the page. -/
abbrev live (node : Node) : Bool := node.place.live

end Node

/-! ## The store and its tables -/

/-- A node as it is stored. -/
structure Record where
  data : NodeData
  place : Place
deriving Repr, DecidableEq

/-- What is noted about nodes beside the store. -/
structure Markers where
  fragments : List Handle
  placeholders : List Handle
  comments : Keyed Handle String
deriving Repr, DecidableEq

namespace Markers

/-- Nothing is noted. -/
def empty : Markers := ⟨[], [], []⟩

/-- The node is noted as one with this content. -/
def Notes (markers : Markers) (h : Handle) : Content → Prop
  | .fragment => h ∈ markers.fragments
  | .placeholder => h ∈ markers.placeholders
  | .comment data => Keyed.get? markers.comments h = some data
  | .document | .element _ _ | .text _ => False

/-- Whether anything is noted about the node. -/
def mentions (markers : Markers) (h : Handle) : Bool :=
  markers.fragments.contains h || markers.placeholders.contains h || Keyed.has markers.comments h

/-- Notes a node as one with this content, where the store does not tell. -/
def note (markers : Markers) (h : Handle) : Content → Markers
  | .fragment => { markers with fragments := markers.fragments.insert h }
  | .placeholder => { markers with placeholders := markers.placeholders.insert h }
  | .comment data => { markers with comments := Keyed.set markers.comments h data }
  | .document | .element _ _ | .text _ => markers

/-- Notes about a copy what is noted about its original. -/
def carry (markers : Markers) (source copy : Handle) : Markers where
  fragments :=
    if source ∈ markers.fragments then markers.fragments.insert copy else markers.fragments
  placeholders :=
    if source ∈ markers.placeholders then markers.placeholders.insert copy
    else markers.placeholders
  comments :=
    match Keyed.get? markers.comments source with
    | none => markers.comments
    | some data => Keyed.set markers.comments copy data

/-- The content of a node with these data: the tables go before the store. -/
def content (markers : Markers) (h : Handle) (data : NodeData) : Content :=
  if h ∈ markers.placeholders then .placeholder
  else if h ∈ markers.fragments then .fragment
  else data.content (Keyed.get? markers.comments h)

/-- Empty tables note nothing. -/
theorem not_notes_empty (h : Handle) (content : Content) : ¬ empty.Notes h content := by
  cases content <;> simp [Notes, empty]

/-- A node about which nothing is noted. -/
theorem not_notes_of_mentions {markers : Markers} {h : Handle} (hm : markers.mentions h = false)
    (content : Content) : ¬ markers.Notes h content := by
  simp only [mentions, Bool.or_eq_false_iff, List.contains_eq_mem, decide_eq_false_iff_not,
    Keyed.has, Option.isSome_eq_false_iff, Option.isNone_iff_eq_none] at hm
  cases content <;> simp [Notes, hm]

/-- What is noted after a note was what it says, or was noted before. -/
theorem of_notes_note {markers : Markers} {h x : Handle} {content other : Content}
    (hn : (markers.note h content).Notes x other) :
    (x = h ∧ other = content) ∨ markers.Notes x other := by
  cases content <;> cases other <;> simp_all [note, Notes, Keyed.get?_set]
  split at hn <;> simp_all

/-- What is noted after the tables were carried over was noted before, of the same node or of the
original. -/
theorem of_notes_carry {markers : Markers} {source copy x : Handle} {content : Content}
    (hn : (markers.carry source copy).Notes x content) :
    (x = copy ∧ markers.Notes source content) ∨ markers.Notes x content := by
  cases content with
  | fragment =>
    simp only [carry, Notes] at hn ⊢
    split at hn
    · rename_i hs
      exact (List.mem_insert_iff.mp hn).imp_left (⟨·, hs⟩)
    · exact Or.inr hn
  | placeholder =>
    simp only [carry, Notes] at hn ⊢
    split at hn
    · rename_i hs
      exact (List.mem_insert_iff.mp hn).imp_left (⟨·, hs⟩)
    · exact Or.inr hn
  | comment data =>
    simp only [carry, Notes] at hn ⊢
    split at hn
    · exact Or.inr hn
    · rename_i own hs
      rw [Keyed.get?_set] at hn
      split at hn
      · rename_i hx
        cases hn
        exact Or.inl ⟨hx.symm, hs⟩
      · exact Or.inr hn
  | document => exact hn.elim
  | element => exact hn.elim
  | text => exact hn.elim

end Markers

/-- The store of all nodes with the tables beside it. -/
structure Nodes where
  records : Array Record
  markers : Markers
  /-- What is noted about a node fits what the store keeps of it. -/
  fitting : ∀ h content, markers.Notes h content → records[h]?.map (·.data) = some content.data
deriving Repr, DecidableEq

namespace Nodes

/-- What the store keeps of a node's own. -/
def data? (nodes : Nodes) (h : Handle) : Option NodeData := nodes.records[h]?.map (·.data)

/-- Nodes about which nothing is noted. -/
def plain (records : Array Record) : Nodes where
  records := records
  markers := .empty
  fitting h content hn := absurd hn (Markers.not_notes_empty h content)

/-- Adds a node, about which nothing is noted. -/
def push (nodes : Nodes) (record : Record) : Nodes where
  records := nodes.records.push record
  markers := nodes.markers
  fitting h content hn := by
    have hd := nodes.fitting h content hn
    have hne : h ≠ nodes.records.size := by
      rintro rfl
      simp at hd
    rw [Array.getElem?_push, if_neg hne, hd]

/-- Changes the place of a node; a missing one is left missing. -/
def move (nodes : Nodes) (h : Handle) (f : Place → Place) : Nodes where
  records := nodes.records.modify h fun record => { record with place := f record.place }
  markers := nodes.markers
  fitting x content hn := by
    have hd := nodes.fitting x content hn
    rw [Array.getElem?_modify]
    split
    · rwa [Option.map_map]
    · exact hd

/-- Changes the data of a node, unless something is noted about it. -/
def write (nodes : Nodes) (h : Handle) (data : NodeData) : Nodes :=
  if hm : nodes.markers.mentions h = true then nodes
  else
    { records := nodes.records.modify h fun record => { record with data := data }
      markers := nodes.markers
      fitting := fun x content hn => by
        have hne : h ≠ x := by
          rintro rfl
          exact Markers.not_notes_of_mentions (Bool.eq_false_iff.mpr hm) content hn
        rw [Array.getElem?_modify, if_neg hne]
        exact nodes.fitting x content hn }

/-- Notes what a node is, if the store keeps the data for it. -/
def mark (nodes : Nodes) (h : Handle) (content : Content) : Nodes :=
  if hd : nodes.data? h = some content.data then
    { records := nodes.records
      markers := nodes.markers.note h content
      fitting := fun x other hn => by
        rcases Markers.of_notes_note hn with ⟨rfl, rfl⟩ | hn
        · exact hd
        · exact nodes.fitting x other hn }
  else nodes

/-- Gives a node other content of its kind. The text of a comment stands beside the
store; all other contents are written into it. -/
def rewrite (nodes : Nodes) (h : Handle) (content : Content) : Nodes :=
  match content with
  | .comment _ => nodes.mark h content
  | _ => nodes.write h content.data

/-- Notes about a copy what is noted about its original, if the store keeps the same data of both. -/
def carry (nodes : Nodes) (source copy : Handle) : Nodes :=
  if hd : nodes.data? copy = nodes.data? source then
    { records := nodes.records
      markers := nodes.markers.carry source copy
      fitting := fun x content hn => by
        rcases Markers.of_notes_carry hn with ⟨rfl, hs⟩ | hn
        · exact hd.trans (nodes.fitting source content hs)
        · exact nodes.fitting x content hn }
  else nodes

end Nodes

/-- All nodes, with the events listened for at the root. -/
structure Document where
  nodes : Nodes
  rootListeners : List String
deriving Repr, DecidableEq

namespace Document

/-- The node of the whole page. -/
def root : Handle := 0

/-- The body element of the page. -/
def body : Handle := 3

/-- The blank page: a document with an `html` element that has a `head` and a `body`. -/
def blank : Document where
  nodes := .plain #[
    ⟨.document, none, [1], true⟩,
    ⟨.element ⟨"html", none⟩ [], some 0, [2, 3], true⟩,
    ⟨.element ⟨"head", none⟩ [], some 1, [], true⟩,
    ⟨.element ⟨"body", none⟩ [], some 1, [], true⟩]
  rootListeners := []

/-! ## Reading -/

/-- The number of nodes ever made. -/
def size (doc : Document) : Nat := doc.nodes.records.size

/-- The node with this number. -/
def node? (doc : Document) (h : Handle) : Option Node :=
  doc.nodes.records[h]?.map fun record =>
    ⟨doc.nodes.markers.content h record.data, record.place⟩

/-- Whether the node exists. -/
def contains (doc : Document) (h : Handle) : Bool := (doc.node? h).isSome

/-- The kind of a node. -/
def kind? (doc : Document) (h : Handle) : Option Kind := (doc.node? h).map (·.content.kind)

/-- The name of an element. -/
def elementName? (doc : Document) (h : Handle) : Option ElementName :=
  (doc.node? h).bind (·.content.elementName?)

/-- The tag of an element. -/
def tag? (doc : Document) (h : Handle) : Option String := (doc.elementName? h).map (·.tag)

/-- The namespace of an element outside HTML. -/
def space? (doc : Document) (h : Handle) : Option String := (doc.elementName? h).bind (·.space)

/-- The attributes of a node. -/
def attributes (doc : Document) (h : Handle) : List Attribute :=
  match doc.node? h with
  | none => []
  | some node => node.content.attributes

/-- The value of the first attribute with this local name. -/
def attribute? (doc : Document) (h : Handle) (name : String) : Option String :=
  (doc.node? h).bind (·.content.attribute? name)

/-- The parent of a node. -/
def parent? (doc : Document) (h : Handle) : Option Handle := (doc.node? h).bind (·.parent)

/-- The children of a node, in order. -/
def children (doc : Document) (h : Handle) : List Handle :=
  match doc.node? h with
  | none => []
  | some node => node.children

/-- Whether a node counts as part of the page. -/
def live (doc : Document) (h : Handle) : Bool :=
  match doc.node? h with
  | none => false
  | some node => node.live

/-! ## Making and changing single nodes -/

/-- Changes the place of one node; a missing one is left missing. -/
def update (doc : Document) (h : Handle) (f : Place → Place) : Document :=
  { doc with nodes := doc.nodes.move h f }

/-- Notes what a node is beside the store. -/
def mark (doc : Document) (h : Handle) (content : Content) : Document :=
  { doc with nodes := doc.nodes.mark h content }

/-- Adds a node to the store, where it gets the next number. -/
def pushRecord (doc : Document) (record : Record) : Document :=
  { doc with nodes := doc.nodes.push record }

/-- Makes a node: it is added to the store, and what the store does not model is noted. -/
def push (doc : Document) (node : Node) : Document :=
  (doc.pushRecord ⟨node.content.data, node.place⟩).mark doc.size node.content

/-- Makes a node that has no parent and no children. -/
def create (doc : Document) (content : Content) : Handle × Document :=
  (doc.size, doc.push ⟨content, none, [], false⟩)

/-- The name that an element with this tag and namespace gets: HTML's namespace
is recognised in any ASCII case. -/
def elementNameOf (tag : String) (space : Option String) : ElementName :=
  match space with
  | none => ⟨tag, none⟩
  | some uri =>
    ⟨tag, if uri.toList.map Char.toLower = htmlSpace.toList.map Char.toLower then none else some uri⟩

/-- Makes an element. -/
def createElement (doc : Document) (tag : String) (space : Option String) : Handle × Document :=
  doc.create (.element (elementNameOf tag space) [])

/-! ## Root listeners -/

/-- Whether the page listens for an event. -/
def hasRootListener (doc : Document) (name : String) : Bool := doc.rootListeners.contains name

/-- Listens for an event; whether it did not before. -/
def installRootListener (doc : Document) (name : String) : Bool × Document :=
  if doc.hasRootListener name then (false, doc)
  else (true, { doc with rootListeners := doc.rootListeners ++ [name] })

/-- Stops listening for an event; whether it did before. -/
def uninstallRootListener (doc : Document) (name : String) : Bool × Document :=
  (doc.hasRootListener name,
    { doc with rootListeners := doc.rootListeners.filter fun other => !decide (other = name) })

end Document

end PageHost
