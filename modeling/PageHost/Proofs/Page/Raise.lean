import PageHost.Proofs.Document.Shape
import PageHost.Proofs.Page.Blueprint
import PageHost.Proofs.Page.Reach
/-!
# Building a blueprint

The edits of a blueprint are carried out on any page on which its ids are free. `Raises`
says what has been built so far: finished trees stand on the stack in their order, every
part is there under its id, and all that was there before is as it was. It is composed
along the edits of trees in sequence, and an element closes over the trees of its children
with a single append.
-/

namespace PageHost.Page

open Blueprint

/-! ## What is built -/

/-- The id of the blueprint names the node, which has its content and the nodes of its children. -/
structure Shapes (page : Page) (h : Handle) (t : Blueprint) : Prop where
  named : page.bindings.lookup? t.label = some h
  content : page.document.content? h = some t.content
  listed : (page.document.children h).map some =
    t.children.map fun c => page.bindings.lookup? c.label

/-- A node goes on shaping a blueprint when its content, its children and the names of its parts
stay. -/
theorem Shapes.congr {a b : Page} {h : Handle} {t : Blueprint} (hs : a.Shapes h t)
    (hc : b.document.content? h = a.document.content? h)
    (hl : b.document.children h = a.document.children h)
    (hn : b.bindings.lookup? t.label = a.bindings.lookup? t.label)
    (hb : ∀ c ∈ t.children, b.bindings.lookup? c.label = a.bindings.lookup? c.label) :
    b.Shapes h t where
  named := hn.trans hs.named
  content := hc.trans hs.content
  listed := by
    rw [hl, hs.listed]
    exact List.map_congr_left fun c hc => (hb c hc).symm

/-- The page can take the trees: their ids are distinct and free, and no element names an
attribute twice. -/
structure Fits (page : Page) (ts : List Blueprint) : Prop where
  distinct : ((partsAll ts).map label).Nodup
  free : ∀ s ∈ partsAll ts, s.label ≠ reservedId ∧ page.bindings.lookup? s.label = none
  names : ∀ s ∈ partsAll ts, (s.attributes.map Prod.fst).Nodup

/-- Trees have been built on a page, their parts as fresh nodes in the order of the walk. Their
top nodes are loose and lie on the stack, and what was there before is as it was. -/
structure Raises (page : Page) (ts : List Blueprint) (tops : List Handle) (built : Page) :
    Prop where
  size : built.document.size = page.document.size + (partsAll ts).length
  frame : ∀ x, x < page.document.size → built.document.node? x = page.document.node? x
  still : ∀ x, page.document.size ≤ x → built.document.live x = false
  parts : ∀ i s, (partsAll ts)[i]? = some s → built.Shapes (page.document.size + i) s
  roots : tops.map some = ts.map fun t => built.bindings.lookup? t.label
  nodup : tops.Nodup
  loose : ∀ x ∈ tops, page.document.size ≤ x ∧ built.document.parent? x = none
  stacked : ∃ slots, built.operands.slots = slots ++ page.operands.slots ∧
    slots.map (·.node) = tops.reverse
  others : ∀ id, (∀ s ∈ partsAll ts, s.label ≠ id) →
    built.bindings.lookup? id = page.bindings.lookup? id
  aliases : ∀ x, x < page.document.size → built.bindings.idsOf x = page.bindings.idsOf x
  templates : built.templates = page.templates
  delegation : built.delegation = page.delegation
  listeners : built.document.rootListeners = page.document.rootListeners
  strict : built.strict = page.strict

theorem partsAll_append (ts rest : List Blueprint) :
    partsAll (ts ++ rest) = partsAll ts ++ partsAll rest := by
  induction ts with
  | nil => rfl
  | cons t more ih => rw [List.cons_append, partsAll, partsAll, ih, List.append_assoc]

theorem partsAll_singleton (t : Blueprint) : partsAll [t] = t.parts := List.append_nil _

namespace Raises

variable {page built : Page} {ts : List Blueprint} {tops : List Handle}

theorem nil (page : Page) : Raises page [] [] page where
  size := rfl
  frame _ _ := rfl
  still x hx := by
    rw [← Bool.not_eq_true]
    exact fun hl => Nat.not_lt.mpr hx (Document.lt_size_of_live hl)
  parts i s hs := by cases hs
  roots := rfl
  nodup := List.nodup_nil
  loose := nofun
  stacked := ⟨[], rfl, rfl⟩
  others _ _ := rfl
  aliases _ _ := rfl
  templates := rfl
  delegation := rfl
  listeners := rfl
  strict := rfl

/-- Every top node is a part. -/
theorem shapes_top (h : Raises page ts tops built) {x : Handle} (hx : x ∈ tops) :
    x < built.document.size ∧ ∃ t, built.Shapes x t := by
  have hm : some x ∈ tops.map some := List.mem_map_of_mem hx
  rw [h.roots] at hm
  obtain ⟨t, ht, hl⟩ := List.mem_map.mp hm
  obtain ⟨i, hi⟩ := List.mem_iff_getElem?.mp (mem_partsAll_of_mem ht)
  have hshapes := h.parts i t hi
  rw [hshapes.named] at hl
  cases hl
  have hlt := (List.getElem?_eq_some_iff.mp hi).1
  rw [h.size]
  exact ⟨Nat.add_lt_add_left hlt _, t, hshapes⟩

/-- As many tops are raised as there are blueprints. -/
theorem length_tops (h : Raises page ts tops built) : tops.length = ts.length := by
  have hlength := congrArg List.length h.roots
  rwa [List.length_map, List.length_map] at hlength

/-- The ids of the first trees are none of those that are bound later. -/
theorem lookup?_later {rest : List Blueprint} {more : List Handle} {last : Page}
    (h' : Raises built rest more last) (hd : ((partsAll (ts ++ rest)).map label).Nodup)
    {s : Blueprint} (hs : s ∈ partsAll ts) :
    last.bindings.lookup? s.label = built.bindings.lookup? s.label := by
  apply h'.others
  intro r hr he
  rw [partsAll_append, List.map_append, List.nodup_append] at hd
  exact hd.2.2 s.label (List.mem_map_of_mem hs) r.label (List.mem_map_of_mem hr) he.symm

/-- The parts of more trees come after those of the first ones, which stay as they are. -/
theorem shapes_append (h : Raises page ts tops built) {rest : List Blueprint} {more : List Handle}
    {last : Page} (h' : Raises built rest more last)
    (hd : ((partsAll (ts ++ rest)).map label).Nodup) {i : Nat} {s : Blueprint}
    (hs : (partsAll (ts ++ rest))[i]? = some s) : last.Shapes (page.document.size + i) s := by
  rw [partsAll_append] at hs
  rcases Nat.lt_or_ge i (partsAll ts).length with hi | hi
  · rw [List.getElem?_append_left hi] at hs
    have hmem := List.mem_of_getElem? hs
    have hnode := h'.frame (page.document.size + i) (by
      rw [h.size]
      exact Nat.add_lt_add_left hi _)
    exact (h.parts i s hs).congr (Document.content?_of_node?_eq hnode)
      (Document.children_of_node?_eq hnode) (lookup?_later h' hd hmem)
      fun c hc => lookup?_later h' hd (mem_partsAll_of_child hc ts hmem)
  · rw [List.getElem?_append_right hi] at hs
    have hshapes := h'.parts _ s hs
    rwa [h.size, Nat.add_assoc, Nat.add_sub_cancel' hi] at hshapes

/-- More trees are built after some. -/
theorem append (h : Raises page ts tops built) {rest : List Blueprint} {more : List Handle}
    {last : Page} (h' : Raises built rest more last)
    (hd : ((partsAll (ts ++ rest)).map label).Nodup) :
    Raises page (ts ++ rest) (tops ++ more) last := by
  have hle : page.document.size ≤ built.document.size := by
    rw [h.size]
    exact Nat.le_add_right _ _
  constructor
  case size =>
    rw [h'.size, h.size, partsAll_append, List.length_append, Nat.add_assoc]
  case frame =>
    exact fun x hx => (h'.frame x (Nat.lt_of_lt_of_le hx hle)).trans (h.frame x hx)
  case still =>
    intro x hx
    by_cases hb : x < built.document.size
    · rw [Document.live_of_node?_eq (h'.frame x hb)]
      exact h.still x hx
    · exact h'.still x (Nat.le_of_not_lt hb)
  case parts => exact fun i s hs => h.shapes_append h' hd hs
  case roots =>
    rw [List.map_append, List.map_append, h.roots, h'.roots]
    refine congrArg (· ++ _) (List.map_congr_left fun t ht => ?_)
    exact (lookup?_later h' hd (mem_partsAll_of_mem ht)).symm
  case nodup =>
    rw [List.nodup_append]
    refine ⟨h.nodup, h'.nodup, fun x hx y hy => ?_⟩
    exact Nat.ne_of_lt (Nat.lt_of_lt_of_le (h.shapes_top hx).1 (h'.loose y hy).1)
  case loose =>
    intro x hx
    rcases List.mem_append.mp hx with hx | hx
    · refine ⟨(h.loose x hx).1, ?_⟩
      rw [Document.parent?_of_node?_eq (h'.frame x (h.shapes_top hx).1)]
      exact (h.loose x hx).2
    · exact ⟨Nat.le_trans hle (h'.loose x hx).1, (h'.loose x hx).2⟩
  case stacked =>
    obtain ⟨slots, hslots, hnodes⟩ := h.stacked
    obtain ⟨later, hlater, hnodes'⟩ := h'.stacked
    refine ⟨later ++ slots, by rw [hlater, hslots, List.append_assoc], ?_⟩
    rw [List.map_append, hnodes, hnodes', List.reverse_append]
  case others =>
    intro id hid
    rw [partsAll_append] at hid
    rw [h'.others id fun s hs => hid s (List.mem_append_right _ hs)]
    exact h.others id fun s hs => hid s (List.mem_append_left _ hs)
  case aliases =>
    exact fun x hx => (h'.aliases x (Nat.lt_of_lt_of_le hx hle)).trans (h.aliases x hx)
  case templates => exact h'.templates.trans h.templates
  case delegation => exact h'.delegation.trans h.delegation
  case listeners => exact h'.listeners.trans h.listeners
  case strict => exact h'.strict.trans h.strict

end Raises

/-! ## One node -/

/-- The page with one node more, which has an id and lies on the stack. -/
def withNode (page : Page) (id : NodeId) (doc : Document) : Page :=
  { page with
    document := doc
    bindings := page.bindings.assign id page.document.size
    operands := page.operands.push page.document.size }

section Node

variable {page : Page} {content : Content} {doc : Document}

/-- The node that is made is loose and has its content. -/
theorem node?_withNode (hs : page.document.Sows content doc) (id : NodeId) :
    (page.withNode id doc).document.node? page.document.size = some ⟨content, none, [], false⟩ :=
  hs.fresh

/-- The label names the node, and all other ids name what they named. -/
theorem lookup?_withNode (page : Page) (id other : NodeId) (doc : Document) :
    (page.withNode id doc).bindings.lookup? other =
      if id = other then some page.document.size else page.bindings.lookup? other :=
  Bindings.lookup?_assign _ _ _ _

/-- The nodes from before keep their ids. -/
theorem idsOf_withNode (page : Page) (id : NodeId) (doc : Document) {x : Handle}
    (hx : x < page.document.size) :
    (page.withNode id doc).bindings.idsOf x = page.bindings.idsOf x :=
  (Bindings.idsOf_assign _ _ _ _).trans (if_neg (Nat.ne_of_lt hx).symm)

/-- A leaf is built when its node is made. -/
theorem raises_leaf {t : Blueprint} (hs : page.document.Sows t.content doc)
    (hparts : t.parts = [t]) (hchildren : t.children = []) :
    Raises page [t] [page.document.size] (page.withNode t.label doc) := by
  have hnode := node?_withNode hs t.label
  have hlookup : (page.withNode t.label doc).bindings.lookup? t.label =
      some page.document.size := by rw [lookup?_withNode, if_pos rfl]
  have hall : partsAll [t] = [t] := (partsAll_singleton t).trans hparts
  constructor
  case size =>
    rw [hall]
    exact hs.size
  case frame => exact hs.frame
  case still =>
    intro x hx
    rcases Nat.lt_or_ge page.document.size x with hgt | hle
    · rw [← Bool.not_eq_true]
      intro hl
      have hlt : x < doc.size := Document.lt_size_of_live hl
      rw [hs.size] at hlt
      exact absurd hgt (Nat.not_lt.mpr (Nat.le_of_lt_succ hlt))
    · rw [Nat.le_antisymm hle hx, Document.live, hnode]
  case parts =>
    intro i s hi
    rw [hall] at hi
    cases i with
    | succ i => cases hi
    | zero =>
      cases hi
      refine ⟨hlookup, ?_, ?_⟩
      · rw [Nat.add_zero, Document.content?, hnode]
        rfl
      · rw [Nat.add_zero, Document.children, hnode, hchildren]
        rfl
  case roots => exact congrArg (fun x => [x]) hlookup.symm
  case nodup => exact List.nodup_cons.mpr ⟨List.not_mem_nil, List.nodup_nil⟩
  case loose =>
    intro x hx
    rw [List.mem_singleton.mp hx, Document.parent?, hnode]
    exact ⟨Nat.le_refl _, rfl⟩
  case stacked => exact ⟨[⟨page.document.size, false⟩], rfl, rfl⟩
  case others =>
    intro id hid
    rw [lookup?_withNode, if_neg]
    exact hid t (by simp [hall])
  case aliases => exact fun x hx => idsOf_withNode page t.label doc hx
  case templates => rfl
  case delegation => rfl
  case listeners => exact hs.listeners
  case strict => rfl

/-- The attributes of a fresh element are written one after the other. -/
theorem applyEach_writing {name : ElementName} {attributes : List Attribute}
    (hs : page.document.Sows (.element name attributes) doc) (id : NodeId)
    {written : List (String × String)} (hn : (written.map Prod.fst).Nodup)
    (hfresh : ∀ a ∈ written, ∀ b ∈ attributes, b.name ≠ a.1) :
    ∃ doc', applyEach (written.map writing) (page.withNode id doc) =
        .ok ⟨written.length, 0, 0⟩ (page.withNode id doc') ∧
      page.document.Sows (.element name (attributes ++ written.map plainAttribute)) doc' := by
  induction written generalizing attributes doc with
  | nil =>
    refine ⟨doc, rfl, ?_⟩
    rw [List.map_nil, List.append_nil]
    exact hs
  | cons a rest ih =>
    have hslots : (page.withNode id doc).operands.slots =
        ⟨page.document.size, false⟩ :: page.operands.slots := rfl
    have hone := apply_writing hslots (node?_withNode hs id) (hfresh a List.mem_cons_self)
    rw [List.map_cons, List.nodup_cons] at hn
    have hrest : ∀ b ∈ rest, ∀ c ∈ attributes ++ [plainAttribute a], c.name ≠ b.1 := by
      intro b hb c hc
      rcases List.mem_append.mp hc with hc | hc
      · exact hfresh b (List.mem_cons_of_mem a hb) c hc
      · rw [List.mem_singleton.mp hc]
        intro he
        have hname : a.1 = b.1 := he
        rw [hname] at hn
        exact hn.1 (List.mem_map_of_mem hb)
    have hwritten := hs.setContent (show (Content.element name attributes).kind =
      (Content.element name (attributes ++ [plainAttribute a])).kind from rfl)
    obtain ⟨doc', hrun, hsown⟩ := ih hwritten hn.2 hrest
    refine ⟨doc', ?_, ?_⟩
    · have hboth := applyEach_cons hone hrun
      rw [List.map_cons, hboth, List.length_cons, Tally.add, Nat.add_comm rest.length]
      rfl
    · rwa [List.append_assoc] at hsown

end Node

/-! ## An element over its children -/

section Element

variable {page raised : Page} {doc : Document} {label : NodeId} {tag : String}
  {attributes : List (String × String)} {children : List Blueprint} {tops : List Handle}

/-- The top nodes of the children are taken off the stack, and the element is on top then. -/
theorem popMany_raised (hr : Raises (page.withNode label doc) children tops raised) :
    raised.operands.popMany children.length = .ok (tops,
      { raised.operands with slots := ⟨page.document.size, false⟩ :: page.operands.slots }) := by
  obtain ⟨slots, hslots, hnodes⟩ := hr.stacked
  have hlength : slots.length = children.length := by
    have hcount := congrArg List.length hnodes
    rw [List.length_map, List.length_reverse, hr.length_tops] at hcount
    exact hcount
  have hle : ¬ raised.operands.size < children.length := by
    rw [Operands.size, hslots, List.length_append, hlength]
    exact Nat.not_lt.mpr (Nat.le_add_right _ _)
  unfold Operands.popMany
  rw [if_neg hle, hslots, ← hlength, List.take_left, List.drop_left, hnodes, List.reverse_reverse]
  rfl

/-- The node of the element is still as it was made. -/
theorem node?_raised
    (hs : page.document.Sows (.element ⟨tag, none⟩ (attributes.map plainAttribute)) doc)
    (hr : Raises (page.withNode label doc) children tops raised) :
    raised.document.node? page.document.size =
      some ⟨.element ⟨tag, none⟩ (attributes.map plainAttribute), none, [], false⟩ := by
  have hlt : page.document.size < (page.withNode label doc).document.size :=
    Nat.lt_of_lt_of_eq (Nat.lt_succ_self _) hs.size.symm
  exact (hr.frame _ hlt).trans hs.fresh

/-- What is raised after a node has a higher number. -/
theorem lt_of_mem_tops {content : Content} (hs : page.document.Sows content doc)
    (hr : Raises (page.withNode label doc) children tops raised) {x : Handle} (hx : x ∈ tops) :
    page.document.size < x :=
  Nat.lt_of_lt_of_le (Nat.lt_of_lt_of_eq (Nat.lt_succ_self _) hs.size.symm) (hr.loose x hx).1

/-- The top nodes of the children can move into the element. -/
theorem movable_raised
    (hs : page.document.Sows (.element ⟨tag, none⟩ (attributes.map plainAttribute)) doc)
    (hr : Raises (page.withNode label doc) children tops raised) :
    raised.document.movable page.document.size tops = .ok tops := by
  have hnode := node?_raised hs hr
  have hkind : raised.document.kind? page.document.size = some .element := by
    rw [Document.kind?_eq, Document.content?, hnode]
    rfl
  have hparent : raised.document.parent? page.document.size = none := by
    rw [Document.parent?, hnode]
    rfl
  apply Document.movable_of_inner hkind rfl
  · intro c hc
    obtain ⟨-, t, ht⟩ := hr.shapes_top hc
    rw [Document.kind?_eq, ht.content]
    exact ⟨t.content.kind, rfl, t.content_inner⟩
  · intro c hc
    rw [Document.Treelike.ancestors_of_parent?_none hparent]
    exact ⟨(Nat.ne_of_lt (lt_of_mem_tops hs hr hc)).symm, List.not_mem_nil⟩

/-- The element has one number more than the page had nodes. -/
theorem size_withNode {content : Content} (hs : page.document.Sows content doc) :
    (page.withNode label doc).document.size = page.document.size + 1 := hs.size

/-- The element keeps its label while its children are raised. -/
theorem lookup?_raised (hr : Raises (page.withNode label doc) children tops raised)
    (hlabel : ∀ s ∈ partsAll children, s.label ≠ label) :
    raised.bindings.lookup? label = some page.document.size := by
  rw [hr.others label hlabel, lookup?_withNode, if_pos rfl]

section Crowned

variable {appended : Document}

/-- The nodes from before are as they were when the children are put under the element. -/
theorem frame_crowned
    (hs : page.document.Sows (.element ⟨tag, none⟩ (attributes.map plainAttribute)) doc)
    (hr : Raises (page.withNode label doc) children tops raised)
    (hc : raised.document.Crowned page.document.size tops appended) {x : Handle}
    (hx : x < page.document.size) : appended.node? x = page.document.node? x := by
  have hlt : x < (page.withNode label doc).document.size := by
    rw [size_withNode hs]
    exact Nat.lt_succ_of_lt hx
  have hraised : raised.document.node? x = page.document.node? x :=
    (hr.frame x hlt).trans (hs.frame x hx)
  rw [← hraised]
  have hout : x ∉ tops := fun hm => Nat.lt_asymm hx (lt_of_mem_tops hs hr hm)
  exact Document.node?_eq_of_views (hc.content x) (hc.parent x hout)
    ((hc.children x).trans (if_neg (Nat.ne_of_lt hx).symm)) (hc.live x)

/-- Neither the element nor a node below it is live. -/
theorem live_crowned
    (hs : page.document.Sows (.element ⟨tag, none⟩ (attributes.map plainAttribute)) doc)
    (hr : Raises (page.withNode label doc) children tops raised)
    (hc : raised.document.Crowned page.document.size tops appended) {x : Handle}
    (hx : page.document.size ≤ x) : appended.live x = false := by
  rw [hc.live]
  rcases Nat.lt_or_ge page.document.size x with hgt | hle
  · exact hr.still x (by rwa [size_withNode hs])
  · rw [Nat.le_antisymm hle hx, Document.live, node?_raised hs hr]

/-- The element stands over its children. -/
theorem shapes_crowned
    (hs : page.document.Sows (.element ⟨tag, none⟩ (attributes.map plainAttribute)) doc)
    (hr : Raises (page.withNode label doc) children tops raised)
    (hlabel : ∀ s ∈ partsAll children, s.label ≠ label)
    (hc : raised.document.Crowned page.document.size tops appended) (operands : Operands) :
    Shapes { raised with operands := operands, document := appended } page.document.size
      (.element label tag attributes children) := by
  have hnamed := lookup?_raised hr hlabel
  refine ⟨hnamed, ?_, ?_⟩
  · show appended.content? page.document.size = _
    rw [hc.content, Document.content?, node?_raised hs hr]
    rfl
  · show (appended.children page.document.size).map some = _
    rw [hc.children, if_pos rfl]
    exact hr.roots

/-- The parts of the children are shaped as they were. -/
theorem shapes_part_crowned
    (hs : page.document.Sows (.element ⟨tag, none⟩ (attributes.map plainAttribute)) doc)
    (hr : Raises (page.withNode label doc) children tops raised)
    (hc : raised.document.Crowned page.document.size tops appended) (operands : Operands)
    {i : Nat} {s : Blueprint} (hi : (partsAll children)[i]? = some s) :
    Shapes { raised with operands := operands, document := appended }
      (page.document.size + (i + 1)) s := by
  have hshapes := hr.parts i s hi
  rw [size_withNode hs, Nat.add_assoc, Nat.add_comm 1] at hshapes
  refine hshapes.congr (hc.content _) ((hc.children _).trans (if_neg ?_)) rfl fun _ _ => rfl
  exact Nat.ne_of_lt (Nat.lt_add_of_pos_right (Nat.succ_pos i))

end Crowned

/-- The children of an element are appended to it when all of them are built. -/
theorem raises_element
    (hs : page.document.Sows (.element ⟨tag, none⟩ (attributes.map plainAttribute)) doc)
    (hr : Raises (page.withNode label doc) children tops raised) (hw : raised.WellFormed)
    (hlabel : ∀ s ∈ partsAll children, s.label ≠ label) :
    ∃ built, apply (.appendChildren children.length) raised = .ok .plain built ∧
      Raises page [.element label tag attributes children] [page.document.size] built := by
  let n := page.document.size
  have hsize : (page.withNode label doc).document.size = n + 1 := size_withNode hs
  have hnode := node?_raised hs hr
  have hlive : raised.document.live n = false := by rw [Document.live, hnode]
  have hempty : raised.document.children n = [] := by rw [Document.children, hnode]
  obtain ⟨appended, hrun, hcrowned⟩ :=
    Document.appendChildren_of_loose hw.tree (movable_raised hs hr) hr.nodup hempty
      (fun c hc => (hr.loose c hc).2) hlive fun c hc => hr.still c (hr.loose c hc).1
  have hall : partsAll [.element label tag attributes children] =
      .element label tag attributes children :: partsAll children := partsAll_singleton _
  refine ⟨_, apply_appendChildren (popMany_raised hr) rfl hrun, ?_⟩
  constructor
  case size =>
    show appended.size = _
    rw [hcrowned.size, hr.size, hsize, hall, List.length_cons, Nat.add_assoc, Nat.add_comm 1]
  case frame => exact fun x hx => frame_crowned hs hr hcrowned hx
  case still => exact fun x hx => live_crowned hs hr hcrowned hx
  case parts =>
    intro i s hi
    rw [hall] at hi
    cases i with
    | zero =>
      cases hi
      exact shapes_crowned hs hr hlabel hcrowned _
    | succ i => exact shapes_part_crowned hs hr hcrowned _ hi
  case roots => exact congrArg (fun x => [x]) (lookup?_raised hr hlabel).symm
  case nodup => exact List.nodup_cons.mpr ⟨List.not_mem_nil, List.nodup_nil⟩
  case loose =>
    intro x hx
    rw [List.mem_singleton.mp hx]
    refine ⟨Nat.le_refl n, ?_⟩
    show appended.parent? n = none
    rw [hcrowned.parent n fun hm => Nat.lt_irrefl n (lt_of_mem_tops hs hr hm), Document.parent?,
      hnode]
    rfl
  case stacked => exact ⟨[⟨n, true⟩], rfl, rfl⟩
  case others =>
    intro id hid
    rw [hall] at hid
    have hne : label ≠ id := hid _ List.mem_cons_self
    show raised.bindings.lookup? id = _
    rw [hr.others id fun s hs => hid s (List.mem_cons_of_mem _ hs), lookup?_withNode, if_neg hne]
  case aliases =>
    intro x hx
    have hlt : x < (page.withNode label doc).document.size := by
      rw [hsize]
      exact Nat.lt_succ_of_lt hx
    exact (hr.aliases x hlt).trans (idsOf_withNode page label doc hx)
  case templates => exact hr.templates
  case delegation => exact hr.delegation
  case listeners => exact hcrowned.listeners.trans (hr.listeners.trans hs.listeners)
  case strict => exact hr.strict

end Element

/-! ## All edits of a tree -/

section Trees

variable {page : Page}

/-- The children of an element fit where its node has been made. -/
theorem Fits.below {label : NodeId} {tag : String} {attributes : List (String × String)}
    {children : List Blueprint} (h : page.Fits [.element label tag attributes children])
    (doc : Document) : (page.withNode label doc).Fits children ∧
      ∀ s ∈ partsAll children, s.label ≠ label := by
  obtain ⟨hd, hf, hn⟩ := h
  have hall : partsAll [.element label tag attributes children] =
      .element label tag attributes children :: partsAll children := partsAll_singleton _
  rw [hall] at hd hf hn
  rw [List.map_cons, List.nodup_cons] at hd
  have hne : ∀ s ∈ partsAll children, s.label ≠ label :=
    fun s hs he => hd.1 (List.mem_map.mpr ⟨s, hs, he⟩)
  refine ⟨⟨hd.2, fun s hs => ?_, fun s hs => hn s (List.mem_cons_of_mem _ hs)⟩, hne⟩
  obtain ⟨hid, hfree⟩ := hf s (List.mem_cons_of_mem _ hs)
  rw [lookup?_withNode, if_neg (hne s hs).symm]
  exact ⟨hid, hfree⟩

/-- The trees that follow fit when the first is built. -/
theorem Fits.after {t : Blueprint} {rest : List Blueprint} (h : page.Fits (t :: rest)) :
    page.Fits [t] ∧ ∀ {tops : List Handle} {built : Page}, Raises page [t] tops built →
      built.Fits rest := by
  obtain ⟨hd, hf, hn⟩ := h
  have hall : partsAll (t :: rest) = partsAll [t] ++ partsAll rest := partsAll_append [t] rest
  rw [hall] at hd hf hn
  rw [List.map_append, List.nodup_append] at hd
  refine ⟨⟨hd.1, fun s hs => hf s (List.mem_append_left _ hs),
    fun s hs => hn s (List.mem_append_left _ hs)⟩, fun hr => ⟨hd.2.1, fun s hs => ?_,
    fun s hs => hn s (List.mem_append_right _ hs)⟩⟩
  obtain ⟨hid, hfree⟩ := hf s (List.mem_append_right _ hs)
  refine ⟨hid, (hr.others s.label fun r hm he => ?_).trans hfree⟩
  exact hd.2.2 r.label (List.mem_map_of_mem hm) s.label (List.mem_map_of_mem hs) he

/-- The top of a blueprint that fits has a free label and attributes set once each. -/
theorem Fits.top {t : Blueprint} (h : page.Fits [t]) : t.label ≠ reservedId ∧
    page.bindings.lookup? t.label = none ∧ (t.attributes.map Prod.fst).Nodup := by
  have hm : t ∈ partsAll [t] := mem_partsAll_of_mem List.mem_cons_self
  exact ⟨(h.free t hm).1, (h.free t hm).2, h.names t hm⟩

/-- A node is made under the id of a blueprint that fits. -/
theorem apply_making {edit : Edit} {content : Content} {t : Blueprint} (h : page.Fits [t])
    (hedit : apply edit = (do
      let node ← makeNode fun doc => doc.create content
      bindAndPush t.label node
      return .creation : Step Tally)) :
    apply edit page =
      .ok .creation (page.withNode t.label (page.document.create content).2) := by
  rw [hedit]
  exact make_of_free h.top.1 h.top.2.1 content

mutual

/-- The edits of a tree build it, whatever its shape. -/
theorem raises_edits (page : Page) (hw : page.WellFormed) :
    (t : Blueprint) → page.Fits [t] →
      ∃ built, applyEach t.edits page = .ok ⟨t.edits.length, t.parts.length, 0⟩ built ∧
        Raises page [t] [page.document.size] built
  | .text label data, hf => by
    have hone := apply_making hf (rfl : apply (.createTextNode data label) = _)
    exact ⟨_, applyEach_singleton hone, raises_leaf (Document.sows_create _ _) rfl rfl⟩
  | .placeholder label, hf => by
    have hone := apply_making hf (rfl : apply (.createPlaceholder label) = _)
    exact ⟨_, applyEach_singleton hone, raises_leaf (Document.sows_create _ _) rfl rfl⟩
  | .element label tag attributes children, hf => by
    have hmade := apply_making hf (rfl : apply (.createElement tag label) = _)
    have hnames : (attributes.map Prod.fst).Nodup := hf.top.2.2
    obtain ⟨doc, hwritten, hsown⟩ := applyEach_writing
      (Document.sows_create page.document (.element ⟨tag, none⟩ [])) label hnames fun _ _ => nofun
    rw [List.nil_append] at hsown
    have hstart := applyEach_cons hmade hwritten
    obtain ⟨hbelow, hlabel⟩ := hf.below doc
    obtain ⟨tops, raised, hrun, hraised⟩ :=
      raises_editsAll (page.withNode label doc) (hw.applyEach hstart) children hbelow
    have hbuilding := applyEach_append hstart hrun
    obtain ⟨built, hlast, hbuilt⟩ :=
      raises_element hsown hraised (hw.applyEach hbuilding) hlabel
    refine ⟨built, ?_, hbuilt⟩
    have htogether := applyEach_append hbuilding (applyEach_singleton hlast)
    rw [edits, htogether, parts]
    simp only [Tally.add, Tally.creation, Tally.plain, List.length_append, List.length_cons,
      List.length_map, List.length_nil, EStateM.Result.ok.injEq, Tally.mk.injEq, and_true]
    omega

/-- The edits of several blueprints raise them all. -/
theorem raises_editsAll (page : Page) (hw : page.WellFormed) :
    (ts : List Blueprint) → page.Fits ts →
      ∃ tops built, applyEach (editsAll ts) page =
          .ok ⟨(editsAll ts).length, (partsAll ts).length, 0⟩ built ∧ Raises page ts tops built
  | [], _ => ⟨[], page, rfl, .nil page⟩
  | t :: rest, hf => by
    obtain ⟨hfirst, hrest⟩ := hf.after
    obtain ⟨middle, hrun, hraised⟩ := raises_edits page hw t hfirst
    obtain ⟨tops, built, hmore, hbuilt⟩ :=
      raises_editsAll middle (hw.applyEach hrun) rest (hrest hraised)
    refine ⟨_, built, ?_, hraised.append hbuilt hf.distinct⟩
    rw [editsAll, applyEach_append hrun hmore, partsAll, List.length_append, List.length_append]
    rfl

end

end Trees

/-! ## The batch -/

/-- The end of a batch changes nothing when a strict page has nothing on the stack. -/
theorem finish_of_empty {page : Page} (h : page.strict = true → page.operands.slots = [])
    (count : Nat) (tally : Tally) :
    ∃ operands : Operands, operands.slots = page.operands.slots ∧
      finish count tally page = .ok tally { page with operands := operands } :=
  ⟨page.operands, rfl, finish_of_clear h count tally⟩

/-- On a reached page any tree can be built by one batch: with distinct ids that are free and not
reserved, and attribute names that no element has twice. Every part is there under its id,
with its content and its children in order; the tree stands nowhere; and what was on the page, on
the stack and in the tables is as it was. -/
theorem batch_builds {page : Page} (hr : page.Reached) (t : Blueprint)
    (hdistinct : (t.parts.map label).Nodup)
    (hfree : ∀ s ∈ t.parts, s.label ≠ reservedId ∧ page.bindings.lookup? s.label = none)
    (hnames : ∀ s ∈ t.parts, (s.attributes.map Prod.fst).Nodup) :
    ∃ after, applyBatch t.batch page = .ok ⟨t.batch.length, t.parts.length, 0⟩ after ∧
      (∀ s ∈ t.parts, ∃ h, after.Shapes h s ∧ page.document.size ≤ h ∧
        ∀ c ∈ after.document.children h, after.document.parent? c = some h) ∧
      (∃ top, after.bindings.lookup? t.label = some top ∧ after.document.parent? top = none) ∧
      after.operands.slots = page.operands.slots ∧
      after.document.size = page.document.size + t.parts.length ∧
      (∀ x, x < page.document.size → after.document.node? x = page.document.node? x ∧
        after.bindings.idsOf x = page.bindings.idsOf x) ∧
      (∀ id, (∀ s ∈ t.parts, s.label ≠ id) →
        after.bindings.lookup? id = page.bindings.lookup? id) ∧
      after.templates = page.templates ∧ after.delegation = page.delegation ∧
      after.document.rootListeners = page.document.rootListeners := by
  have hw := hr.wellFormed
  have hfits : page.Fits [t] := by
    constructor
    case distinct => rwa [partsAll_singleton]
    case free => rwa [partsAll_singleton]
    case names => rwa [partsAll_singleton]
  obtain ⟨built, hrun, hbuilt⟩ := raises_edits page hw t hfits
  obtain ⟨slots, hslots, hnodes⟩ := hbuilt.stacked
  obtain ⟨slot, rfl⟩ : ∃ slot, slots = [slot] := by
    have hlength := congrArg List.length hnodes
    rw [List.length_map] at hlength
    exact List.length_eq_one_iff.mp hlength
  let popped : Page :=
    { built with operands := { built.operands with slots := page.operands.slots } }
  have hpop : apply .popRoot built = .ok .plain popped := apply_popRoot hslots
  have hall := applyEach_append hrun (applyEach_singleton hpop)
  have hbatch : applyBatch t.batch page =
      finish t.batch.length ⟨t.batch.length, t.parts.length, 0⟩ popped := by
    have hend := applyFrom_of_applyEach hall 0 .zero
    have htally : (⟨t.edits.length, t.parts.length, 0⟩ : Tally).add .plain =
        ⟨t.batch.length, t.parts.length, 0⟩ := by
      rw [batch, List.length_append]
      rfl
    rw [Tally.zero_add, Nat.zero_add, htally] at hend
    exact hend
  have hstrict : popped.strict = true → popped.operands.slots = [] :=
    fun h => hr.slots_of_strict (hbuilt.strict.symm.trans h)
  obtain ⟨operands, hstack, hfinish⟩ := finish_of_empty hstrict t.batch.length
    ⟨t.batch.length, t.parts.length, 0⟩
  refine ⟨{ popped with operands := operands }, hbatch.trans hfinish, ?_⟩
  have htree : built.document.Treelike := (hw.applyEach hrun).tree
  rw [← partsAll_singleton]
  refine ⟨fun s hs => ?_, ?_, hstack, hbuilt.size,
    fun x hx => ⟨hbuilt.frame x hx, hbuilt.aliases x hx⟩, hbuilt.others,
    hbuilt.templates, hbuilt.delegation, hbuilt.listeners⟩
  · obtain ⟨i, hi⟩ := List.mem_iff_getElem?.mp hs
    have hshapes : Shapes { popped with operands := operands } _ s :=
      (hbuilt.parts i s hi).congr rfl rfl rfl fun _ _ => rfl
    exact ⟨_, hshapes, Nat.le_add_right _ _, fun c hc => htree.parent_of_mem _ c hc⟩
  · exact ⟨page.document.size, (List.cons.inj hbuilt.roots).1.symm,
      (hbuilt.loose _ List.mem_cons_self).2⟩

/-- A list with an attribute, two items and a text, built on the blank page. -/
theorem batch_builds_list :
    let t : Blueprint := .element 1 "ul" [("class", "menu")]
      [.element 2 "li" [] [.text 3 "one"], .placeholder 4]
    t.batch = [.createElement "ul" 1, .setAttribute 0 "class" (.text "menu") none,
      .createElement "li" 2, .createTextNode "one" 3, .appendChildren 1, .createPlaceholder 4,
      .appendChildren 2, .popRoot] ∧
    ∃ after, applyBatch t.batch (ofDocument .blank true) = .ok ⟨8, 4, 0⟩ after ∧
      ∀ s ∈ t.parts, ∃ h, after.Shapes h s := by
  intro t
  have hstart : (ofDocument .blank true).Reached := .start [] [] true
  have hdistinct : (t.parts.map label).Nodup := by decide
  have hfree : ∀ s ∈ t.parts, s.label ≠ reservedId ∧
      (ofDocument .blank true).bindings.lookup? s.label = none := by
    intro s hs
    have hm : s.label ∈ t.parts.map label := List.mem_map_of_mem hs
    have hlabels : t.parts.map label = [1, 2, 3, 4] := rfl
    refine ⟨?_, rfl⟩
    rintro he
    rw [he, hlabels] at hm
    exact absurd hm (by decide)
  have hnames : ∀ s ∈ t.parts, (s.attributes.map Prod.fst).Nodup := by
    intro s hs
    have hm : s.attributes.map Prod.fst ∈ t.parts.map fun s => s.attributes.map Prod.fst :=
      List.mem_map_of_mem hs
    have hlists : (t.parts.map fun s => s.attributes.map Prod.fst) = [["class"], [], [], []] := rfl
    rw [hlists] at hm
    revert hm
    generalize s.attributes.map Prod.fst = names
    intro hm
    simp only [List.mem_cons, List.not_mem_nil, or_false, or_self] at hm
    rcases hm with rfl | rfl <;> decide
  obtain ⟨after, hrun, hparts, -⟩ := batch_builds hstart t hdistinct hfree hnames
  refine ⟨rfl, after, hrun, fun s hs => ?_⟩
  obtain ⟨h, hshapes, -⟩ := hparts s hs
  exact ⟨h, hshapes⟩

end PageHost.Page
