import PageHost.Proofs.Document.Live
import PageHost.Proofs.Page.Endings
/-!
# Trees as edits

A blueprint is a tree of elements, texts and placeholders in which every node has an id of
its own. `edits` builds it by one walk: each node is made when the walk comes to it,
attributes are written to the element on top of the stack, and the children of an element
are appended when all of them are there. A blueprint of any depth and width takes nothing but
these edits.

What the single edits do is said of fresh nodes. `Sows` describes a document with one node
more, and nodes that are loose and not live are appended without any other effect.
-/

namespace PageHost

/-- A tree that is to be built, with an id for each of its nodes. -/
inductive Blueprint where
  /-- An element with its attributes, none of them in a namespace. -/
  | element (label : NodeId) (tag : String) (attributes : List (String × String))
      (children : List Blueprint)
  | text (label : NodeId) (data : String)
  | placeholder (label : NodeId)

namespace Blueprint

/-- The id of the top node. -/
def label : Blueprint → NodeId
  | .element label _ _ _ | .text label _ | .placeholder label => label

/-- The trees below the top node, in order. -/
def children : Blueprint → List Blueprint
  | .element _ _ _ children => children
  | _ => []

/-- Names and values of the attributes of the top node, in order. -/
def attributes : Blueprint → List (String × String)
  | .element _ _ attributes _ => attributes
  | _ => []

/-- An attribute in no namespace. -/
def plainAttribute (a : String × String) : Attribute := ⟨a.1, none, a.2⟩

/-- What the top node is. -/
def content : Blueprint → Content
  | .element _ tag attributes _ => .element ⟨tag, none⟩ (attributes.map plainAttribute)
  | .text _ data => .text data
  | .placeholder _ => .placeholder

mutual

/-- The tree and all trees below it, in the order of the walk. -/
def parts : Blueprint → List Blueprint
  | .element label tag attributes children =>
    .element label tag attributes children :: partsAll children
  | .text label data => [.text label data]
  | .placeholder label => [.placeholder label]

/-- The parts of trees one after the other. -/
def partsAll : List Blueprint → List Blueprint
  | [] => []
  | t :: rest => parts t ++ partsAll rest

end

/-- Writes an attribute of the node on top of the stack. -/
def writing (a : String × String) : Edit := .setAttribute reservedId a.1 (.text a.2) none

mutual

/-- The edits that build the tree and leave its top node on the stack. -/
def edits : Blueprint → List Edit
  | .element label tag attributes children =>
    .createElement tag label :: attributes.map writing ++ editsAll children ++
      [.appendChildren children.length]
  | .text label data => [.createTextNode data label]
  | .placeholder label => [.createPlaceholder label]

/-- The edits for trees one after the other. -/
def editsAll : List Blueprint → List Edit
  | [] => []
  | t :: rest => edits t ++ editsAll rest

end

/-- The batch that builds the tree and leaves the stack as it was. -/
def batch (t : Blueprint) : List Edit := t.edits ++ [.popRoot]

/-! ## Parts -/

/-- A blueprint is one of its parts. -/
theorem mem_parts_self (t : Blueprint) : t ∈ t.parts := by
  cases t with
  | element label tag attributes children => exact List.mem_cons_self
  | text label data => exact List.mem_cons_self
  | placeholder label => exact List.mem_cons_self

theorem mem_partsAll_of_mem {ts : List Blueprint} {t : Blueprint} (h : t ∈ ts) :
    t ∈ partsAll ts := by
  induction ts with
  | nil => cases h
  | cons first rest ih =>
    rw [partsAll, List.mem_append]
    rcases List.mem_cons.mp h with rfl | h
    · exact Or.inl (mem_parts_self t)
    · exact Or.inr (ih h)

mutual

/-- What stands below a part is a part. -/
theorem mem_parts_of_child {s c : Blueprint} (hc : c ∈ s.children) :
    (t : Blueprint) → s ∈ t.parts → c ∈ t.parts
  | .element label tag attributes children, hs => by
    rw [parts] at hs ⊢
    apply List.mem_cons_of_mem
    rcases List.mem_cons.mp hs with rfl | hs
    · exact mem_partsAll_of_mem hc
    · exact mem_partsAll_of_child hc children hs
  | .text label data, hs => by
    rw [parts, List.mem_singleton] at hs
    subst hs
    cases hc
  | .placeholder label, hs => by
    rw [parts, List.mem_singleton] at hs
    subst hs
    cases hc

/-- Children of a part are parts. -/
theorem mem_partsAll_of_child {s c : Blueprint} (hc : c ∈ s.children) :
    (ts : List Blueprint) → s ∈ partsAll ts → c ∈ partsAll ts
  | [], hs => by cases hs
  | t :: rest, hs => by
    rw [partsAll, List.mem_append] at hs ⊢
    rcases hs with hs | hs
    · exact Or.inl (mem_parts_of_child hc t hs)
    · exact Or.inr (mem_partsAll_of_child hc rest hs)

end

/-- No part is a document or a fragment. -/
theorem content_inner (t : Blueprint) :
    t.content.kind ≠ .document ∧ t.content.kind ≠ .fragment := by
  cases t with
  | element label tag attributes children => exact ⟨nofun, nofun⟩
  | text label data => exact ⟨nofun, nofun⟩
  | placeholder label => exact ⟨nofun, nofun⟩

end Blueprint

/-! ## Fresh nodes -/

namespace Document

/-- One fresh node more, loose, empty and not live. -/
structure Sows (doc : Document) (content : Content) (doc' : Document) : Prop where
  size : doc'.size = doc.size + 1
  frame : ∀ x, x < doc.size → doc'.node? x = doc.node? x
  fresh : doc'.node? doc.size = some ⟨content, none, [], false⟩
  listeners : doc'.rootListeners = doc.rootListeners

/-- A node that is made is sown. -/
theorem sows_create (doc : Document) (content : Content) :
    doc.Sows content (doc.create content).2 where
  size := size_push _ _
  frame x hx := (node?_push _ _ x).trans (if_neg (Nat.ne_of_lt hx))
  fresh := (node?_push _ _ _).trans (if_pos rfl)
  listeners := rfl

/-- The fresh node gets another content of its kind. -/
theorem Sows.setContent {doc doc' : Document} {content other : Content}
    (h : doc.Sows content doc') (hk : content.kind = other.kind) :
    doc.Sows other (doc'.setContent doc.size other) where
  size := (size_setContent _ _ _).trans h.size
  frame x hx := by
    have hne : x ≠ doc.size := Nat.ne_of_lt hx
    exact (doc'.node?_setContent_of_ne hne _).trans (h.frame x hx)
  fresh := by
    have hkind : doc'.kind? doc.size = some other.kind := by
      rw [kind?, h.fresh, ← hk]
      rfl
    rw [node?_setContent hkind, if_pos rfl, h.fresh]
    rfl
  listeners := h.listeners

/-- Nodes without a parent need not be taken out. -/
theorem unlinkAll_of_loose {doc : Document} {nodes : List Handle}
    (h : ∀ c ∈ nodes, doc.parent? c = none) : doc.unlinkAll nodes = doc := by
  have hnone : (nodes.filter fun c => (doc.parent? c).isSome) = [] := by
    rw [List.filter_eq_nil_iff]
    intro c hc
    simp [h c hc]
  unfold unlinkAll
  rw [hnone]
  rfl

/-- Nodes are put under a node that had no children, and nothing else is changed. -/
structure Crowned (doc : Document) (parent : Handle) (nodes : List Handle) (doc' : Document) :
    Prop where
  size : doc'.size = doc.size
  content : ∀ x, doc'.content? x = doc.content? x
  children : ∀ x, doc'.children x = if parent = x then nodes else doc.children x
  parent : ∀ x, x ∉ nodes → doc'.parent? x = doc.parent? x
  live : ∀ x, doc'.live x = doc.live x
  listeners : doc'.rootListeners = doc.rootListeners

/-- Different nodes that are loose and not live can be put under an empty node that is not live. -/
theorem appendChildren_of_loose {doc : Document} (ht : doc.Treelike) {parent : Handle}
    {nodes : List Handle} (hm : doc.movable parent nodes = .ok nodes) (hd : nodes.Nodup)
    (hempty : doc.children parent = []) (hloose : ∀ c ∈ nodes, doc.parent? c = none)
    (hp : doc.live parent = false) (hn : ∀ c ∈ nodes, doc.live c = false) :
    ∃ doc', appendChildren parent nodes doc = .ok () doc' ∧ doc.Crowned parent nodes doc' := by
  have hplace := placeable_of_movable ht hm
  rw [unlinkAll_of_loose hloose] at hplace
  obtain ⟨hrelinked, hlive⟩ := relinked_of_still hplace (· ++ nodes) hp hn
  have hprepared := prepare_of_ok hm
  rw [unlinkAll_of_loose hloose] at hprepared
  refine ⟨_, run_bind_of_ok hprepared _, hrelinked.size, hrelinked.content, fun x => ?_,
    fun x hx => (hrelinked.parent x).trans (if_neg hx), hlive, rootListeners_link _ _ _ _⟩
  rw [hrelinked.children]
  split
  · rename_i hx
    rw [← hx, hempty, List.nil_append, List.filter_eq_self]
    intro c _
    have hone := List.nodup_iff_count.mp hd c
    simpa using Nat.lt_succ_of_le hone
  · rfl

end Document

/-! ## Edits on top of the stack -/

namespace Page

/-- Writing an attribute that the element on top does not have yet puts it at the end. -/
theorem apply_writing {page : Page} {slot : Operand} {rest : List Operand}
    (hs : page.operands.slots = slot :: rest) {name : ElementName} {attributes : List Attribute}
    (hnode : page.document.node? slot.node =
      some ⟨.element name attributes, none, [], false⟩) {a : String × String}
    (hfresh : ∀ b ∈ attributes, b.name ≠ a.1) :
    apply (Blueprint.writing a) page = .ok .plain
      { page with
        document := page.document.setContent slot.node
          (.element name (attributes ++ [Blueprint.plainAttribute a])) } := by
  have htarget : target reservedId page = .ok slot.node page := top_of_slots hs
  have hwrite : Document.writeAttribute attributes (Blueprint.plainAttribute a) =
      attributes ++ [Blueprint.plainAttribute a] := by
    clear hnode
    induction attributes with
    | nil => rfl
    | cons b more ih =>
      have hne : ¬ (b.name = (Blueprint.plainAttribute a).name ∧
          b.space = (Blueprint.plainAttribute a).space) :=
        fun h => hfresh b List.mem_cons_self h.1
      rw [Document.writeAttribute, if_neg hne, ih fun c hc => hfresh c (List.mem_cons_of_mem b hc)]
      rfl
  have hset : Document.setAttribute slot.node a.1 none a.2 page.document =
      .ok () (page.document.setContent slot.node
        (.element name (attributes ++ [Blueprint.plainAttribute a]))) := by
    have hnoted : Document.notedState name false (Blueprint.plainAttribute a) = [] :=
      if_neg fun h => Bool.noConfusion h.1
    unfold Document.setAttribute
    rw [hnode]
    show EStateM.Result.ok () (page.document.setContent slot.node (.element name
      (Document.writeAttribute attributes (Blueprint.plainAttribute a) ++
        Document.notedState name false (Blueprint.plainAttribute a)))) = _
    rw [hwrite, hnoted, List.append_nil]
  have hrun : setAttribute reservedId a.1 (.text a.2) none page =
      onDocument (Document.setAttribute slot.node a.1 none a.2) page := run_bind_of_ok htarget _
  exact run_bind_of_ok (hrun.trans (onDocument_of_ok page hset)) _

/-- Taking nodes off the stack and appending them to the node that is on top then. -/
theorem apply_appendChildren {page : Page} {count : Nat} {nodes : List Handle}
    {operands : Operands} (hp : page.operands.popMany count = .ok (nodes, operands))
    {slot : Operand} {rest : List Operand} (hs : operands.slots = slot :: rest) {doc : Document}
    (hc : Document.appendChildren slot.node nodes page.document = .ok () doc) :
    apply (.appendChildren count) page =
      .ok .plain { page with operands := operands.markParent, document := doc } := by
  have htop : top { page with operands := operands } =
      .ok slot.node { page with operands := operands } := top_of_slots hs
  have hpop := popMany_of_ok hp
  have hlinked := onDocument_of_ok { page with operands := operands } hc
  exact (run_bind_of_ok hpop _).trans ((run_bind_of_ok htop _).trans (run_bind_of_ok hlinked _))

end Page

end PageHost
