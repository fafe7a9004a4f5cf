import PageHost.Document.Change
/-!
# The store and the tables beside it

A node is read through the store and the tables together. What the store keeps of a
node is determined by the content of the node, so the tables come in where contents
are written and nowhere else. Each step that writes is described by what is read of
the nodes afterwards.
-/

namespace PageHost

/-- The node's own data can be read off its content. -/
theorem NodeData.data_content (data : NodeData) (text : Option String) :
    (data.content text).data = data := by cases data <;> rfl

/-- The store alone tells no fragments and no placeholders. -/
theorem NodeData.kind_content (data : NodeData) (text : Option String) :
    (data.content text).kind ≠ .fragment ∧ (data.content text).kind ≠ .placeholder := by
  cases data <;> exact ⟨nofun, nofun⟩

/-- Fragments are known by their kind. -/
theorem Content.eq_fragment_iff {content : Content} :
    content.kind = .fragment ↔ content = .fragment := by
  cases content <;> simp [Content.kind]

theorem Content.eq_placeholder_iff {content : Content} :
    content.kind = .placeholder ↔ content = .placeholder := by
  cases content <;> simp [Content.kind]

namespace Markers

variable {markers : Markers} {h x : Handle}

/-- Nothing is mentioned of a node that is in no table. -/
theorem mentions_eq_false_iff : markers.mentions h = false ↔
    h ∉ markers.fragments ∧ h ∉ markers.placeholders ∧ Keyed.get? markers.comments h = none := by
  simp [mentions, Keyed.has, and_assoc]

/-- A node that is listed as a placeholder is one, whatever it holds itself. -/
theorem content_of_placeholder (hp : h ∈ markers.placeholders) (data : NodeData) :
    markers.content h data = .placeholder := if_pos hp

/-- A node that is listed as a fragment only is a fragment. -/
theorem content_of_fragment (hp : h ∉ markers.placeholders) (hf : h ∈ markers.fragments)
    (data : NodeData) : markers.content h data = .fragment :=
  (if_neg hp).trans (if_pos hf)

/-- A node that is listed as neither has the content that it holds itself, with the comment noted
for it. -/
theorem content_of_neither (hp : h ∉ markers.placeholders) (hf : h ∉ markers.fragments)
    (data : NodeData) :
    markers.content h data = data.content (Keyed.get? markers.comments h) :=
  (if_neg hp).trans (if_neg hf)

/-- Every node that reads as a placeholder is noted as one. -/
theorem mem_placeholders_of_kind {data : NodeData}
    (hk : (markers.content h data).kind = .placeholder) : h ∈ markers.placeholders := by
  by_cases hp : h ∈ markers.placeholders
  · exact hp
  by_cases hf : h ∈ markers.fragments
  · rw [content_of_fragment hp hf] at hk
    cases hk
  · rw [content_of_neither hp hf] at hk
    exact absurd hk (data.kind_content _).2

/-- Every node that reads as a fragment is noted as one. -/
theorem mem_fragments_of_kind {data : NodeData}
    (hk : (markers.content h data).kind = .fragment) : h ∈ markers.fragments := by
  by_cases hf : h ∈ markers.fragments
  · exact hf
  by_cases hp : h ∈ markers.placeholders
  · rw [content_of_placeholder hp] at hk
    cases hk
  · rw [content_of_neither hp hf] at hk
    exact absurd hk (data.kind_content _).1

/-- The first tables say of the first node what the second tables say of the second one. -/
structure SameAt (markers : Markers) (h : Handle) (others : Markers) (other : Handle) : Prop where
  fragment : h ∈ markers.fragments ↔ other ∈ others.fragments
  placeholder : h ∈ markers.placeholders ↔ other ∈ others.placeholders
  comment : Keyed.get? markers.comments h = Keyed.get? others.comments other

theorem SameAt.rfl : markers.SameAt h markers h := ⟨Iff.rfl, Iff.rfl, Eq.refl _⟩

theorem SameAt.symm {others : Markers} {other : Handle} (hs : markers.SameAt h others other) :
    others.SameAt other markers h :=
  ⟨hs.fragment.symm, hs.placeholder.symm, hs.comment.symm⟩

theorem SameAt.trans {second third : Markers} {h' h'' : Handle} (hs : markers.SameAt h second h')
    (hs' : second.SameAt h' third h'') : markers.SameAt h third h'' :=
  ⟨hs.fragment.trans hs'.fragment, hs.placeholder.trans hs'.placeholder,
    hs.comment.trans hs'.comment⟩

/-- Nodes with the same data of which the same is said have the same content. -/
theorem SameAt.content_eq {others : Markers} {other : Handle}
    (hs : markers.SameAt h others other) (data : NodeData) :
    markers.content h data = others.content other data := by
  simp only [Markers.content, hs.fragment, hs.placeholder, hs.comment]

/-- A note leaves the other nodes as they are. -/
theorem sameAt_note_of_ne (hne : x ≠ h) (content : Content) :
    (markers.note h content).SameAt x markers x := by
  cases content
  case fragment => exact ⟨by simp [note, hne], Iff.rfl, Eq.refl _⟩
  case placeholder => exact ⟨Iff.rfl, by simp [note, hne], Eq.refl _⟩
  case comment => exact ⟨Iff.rfl, Iff.rfl, by simp [note, Keyed.get?_set, Ne.symm hne]⟩
  case document => exact .rfl
  case element => exact .rfl
  case text => exact .rfl

/-- Empty tables mention no node. -/
theorem mentions_empty (h : Handle) : empty.mentions h = false := by
  simp [mentions, empty, Keyed.has]

/-- Of nodes that are not mentioned the same is said. -/
theorem sameAt_of_mentions {others : Markers} {other : Handle} (hm : markers.mentions h = false)
    (ho : others.mentions other = false) : markers.SameAt h others other := by
  obtain ⟨hf, hp, hc⟩ := mentions_eq_false_iff.mp hm
  obtain ⟨hf', hp', hc'⟩ := mentions_eq_false_iff.mp ho
  exact ⟨iff_of_false hf hf', iff_of_false hp hp', hc.trans hc'.symm⟩

/-- A comment has the text that is noted last. -/
theorem content_note_comment (hp : h ∉ markers.placeholders) (hf : h ∉ markers.fragments)
    (data : String) :
    (markers.note h (.comment data)).content h .comment = .comment data := by
  have hp' : h ∉ (markers.note h (.comment data)).placeholders := hp
  have hf' : h ∉ (markers.note h (.comment data)).fragments := hf
  rw [content_of_neither hp' hf']
  show NodeData.comment.content (Keyed.get? (Keyed.set markers.comments h data) h) = _
  rw [Keyed.get?_set, if_pos (Eq.refl h)]
  exact Eq.refl _

/-- A node that is noted for the first time has the content that is noted. -/
theorem content_note_self (hm : markers.mentions h = false) (content : Content) :
    (markers.note h content).content h content.data = content := by
  obtain ⟨hf, hp, hc⟩ := mentions_eq_false_iff.mp hm
  cases content with
  | placeholder => exact content_of_placeholder List.mem_insert_self _
  | fragment =>
    have hp' : h ∉ (markers.note h .fragment).placeholders := hp
    exact content_of_fragment hp' List.mem_insert_self _
  | comment data => exact content_note_comment hp hf data
  | document => exact content_of_neither hp hf _
  | element name attributes => exact content_of_neither hp hf _
  | text data => exact content_of_neither hp hf _

end Markers

namespace Nodes

variable (nodes : Nodes) (h : Handle)

@[simp] theorem records_mark (content : Content) : (nodes.mark h content).records = nodes.records := by
  unfold mark
  split <;> rfl

/-- Other data of a node do not move it. -/
theorem map_place_write (data : NodeData) (x : Handle) :
    (nodes.write h data).records[x]?.map (·.place) = nodes.records[x]?.map (·.place) := by
  unfold write
  split
  · rfl
  · rw [Array.getElem?_modify]
    split
    · rw [Option.map_map]
      rfl
    · rfl

/-- Other content of a node does not move it. -/
theorem map_place_rewrite (content : Content) (x : Handle) :
    (nodes.rewrite h content).records[x]?.map (·.place) = nodes.records[x]?.map (·.place) := by
  cases content with
  | comment data => exact congrArg (fun records => (records[x]?).map _) (nodes.records_mark h _)
  | fragment => exact nodes.map_place_write h _ x
  | placeholder => exact nodes.map_place_write h _ x
  | document => exact nodes.map_place_write h _ x
  | element => exact nodes.map_place_write h _ x
  | text => exact nodes.map_place_write h _ x

@[simp] theorem markers_write (data : NodeData) : (nodes.write h data).markers = nodes.markers := by
  unfold write
  split <;> rfl

/-- To mark a node with content of its own data is to note the content for it. -/
theorem markers_mark {content : Content} (hd : nodes.data? h = some content.data) :
    (nodes.mark h content).markers = nodes.markers.note h content := by
  rw [mark, dif_pos hd]

/-- What is mentioned beside the store is in the store. -/
theorem mentions_of_size_le (hs : nodes.records.size ≤ h) : nodes.markers.mentions h = false := by
  have hnone : nodes.records[h]? = none := Array.getElem?_eq_none_iff.mpr hs
  have hno : ∀ content, ¬ nodes.markers.Notes h content := by
    intro content hn
    have hd := nodes.fitting h content hn
    rw [hnone] at hd
    cases hd
  exact Markers.mentions_eq_false_iff.mpr ⟨hno .fragment, hno .placeholder,
    Option.eq_none_iff_forall_ne_some.mpr fun data => hno (.comment data)⟩

/-- The store keeps of a node what goes with its content. -/
theorem data_content {record : Record} (hr : nodes.records[h]? = some record) :
    (nodes.markers.content h record.data).data = record.data := by
  have hfit := nodes.fitting h
  rw [hr] at hfit
  by_cases hp : h ∈ nodes.markers.placeholders
  · rw [Markers.content_of_placeholder hp]
    exact (Option.some.inj (hfit .placeholder hp)).symm
  · by_cases hf : h ∈ nodes.markers.fragments
    · rw [Markers.content_of_fragment hp hf]
      exact (Option.some.inj (hfit .fragment hf)).symm
    · rw [Markers.content_of_neither hp hf, NodeData.data_content]

end Nodes

namespace Document

/-- Where a node stands. -/
def place? (doc : Document) (h : Handle) : Option Place := doc.nodes.records[h]?.map (·.place)

/-- The place of a node is part of the node. -/
theorem place?_eq (doc : Document) (h : Handle) : doc.place? h = (doc.node? h).map (·.place) := by
  rw [node?, Option.map_map]
  rfl

section Place

variable {a b : Document} {x : Handle} (h : b.place? x = a.place? x)
include h

/-- Nodes at the same place have the same parent. -/
theorem parent?_of_place?_eq : b.parent? x = a.parent? x := by
  rw [place?_eq, place?_eq] at h
  have hp := congrArg (Option.bind · Place.parent) h
  rwa [Option.bind_map, Option.bind_map] at hp

theorem children_of_place?_eq : b.children x = a.children x := by
  have hread : ∀ doc : Document, doc.children x = ((doc.place? x).map (·.children)).getD [] := by
    intro doc
    rw [place?_eq, children]
    cases doc.node? x <;> rfl
  rw [hread, hread, h]

theorem live_of_place?_eq : b.live x = a.live x := by
  have hread : ∀ doc : Document, doc.live x = ((doc.place? x).map (·.live)).getD false := by
    intro doc
    rw [place?_eq, live]
    cases doc.node? x <;> rfl
  rw [hread, hread, h]

end Place

/-- There is no node from the size on. -/
theorem node?_eq_none_iff (doc : Document) (h : Handle) : doc.node? h = none ↔ doc.size ≤ h := by
  rw [node?, Option.map_eq_none_iff]
  exact Array.getElem?_eq_none_iff

/-! ## Writing one node -/

@[simp] theorem size_update (doc : Document) (h : Handle) (f : Place → Place) :
    (doc.update h f).size = doc.size := by simp [update, Nodes.move, size]

@[simp] theorem size_mark (doc : Document) (h : Handle) (content : Content) :
    (doc.mark h content).size = doc.size := by simp [mark, size]

@[simp] theorem size_pushRecord (doc : Document) (record : Record) :
    (doc.pushRecord record).size = doc.size + 1 := by simp [pushRecord, Nodes.push, size]

@[simp] theorem size_push (doc : Document) (node : Node) : (doc.push node).size = doc.size + 1 := by
  simp [push]

/-- An update changes the place of one node. -/
theorem node?_update (doc : Document) (h x : Handle) (f : Place → Place) :
    (doc.update h f).node? x =
      if h = x then (doc.node? x).map fun node => { node with place := f node.place }
      else doc.node? x := by
  rw [node?, node?]
  show Option.map _ (doc.nodes.records.modify h _)[x]? = _
  rw [Array.getElem?_modify]
  split
  · rw [Option.map_map, Option.map_map]
    rfl
  · rfl

/-- A fresh node in the store, about which nothing is noted yet. -/
theorem node?_pushRecord (doc : Document) (record : Record) (x : Handle) :
    (doc.pushRecord record).node? x =
      if x = doc.size then some ⟨Markers.empty.content x record.data, record.place⟩
      else doc.node? x := by
  rw [node?, node?]
  show Option.map _ (doc.nodes.records.push record)[x]? = _
  rw [Array.getElem?_push]
  split
  · rename_i hx
    have hm := doc.nodes.mentions_of_size_le x (Nat.le_of_eq hx.symm)
    rw [if_pos (show x = doc.size from hx), Option.map_some]
    have hsame := Markers.sameAt_of_mentions hm (Markers.mentions_empty x)
    exact congrArg (fun content => some (Node.mk content record.place))
      (hsame.content_eq record.data)
  · rename_i hx
    rw [if_neg (show ¬ x = doc.size from hx)]
    rfl

/-- A note on one node leaves the others as they are. -/
theorem node?_mark_of_ne (doc : Document) {h x : Handle} (hne : x ≠ h) (content : Content) :
    (doc.mark h content).node? x = doc.node? x := by
  rw [node?, node?, mark]
  by_cases hd : doc.nodes.data? h = some content.data
  · rw [Nodes.records_mark, Nodes.markers_mark _ _ hd]
    exact congrArg (Option.map · _) (funext fun record =>
      congrArg (Node.mk · record.place)
        ((Markers.sameAt_note_of_ne hne content).content_eq record.data))
  · rw [Nodes.mark, dif_neg hd]

/-- A node that is noted for the first time. -/
theorem node?_mark_self (doc : Document) {h : Handle} {record : Record}
    (hr : doc.nodes.records[h]? = some record) (hm : doc.nodes.markers.mentions h = false)
    {content : Content} (hd : record.data = content.data) :
    (doc.mark h content).node? h = some ⟨content, record.place⟩ := by
  have hdata : doc.nodes.data? h = some content.data := by rw [Nodes.data?, hr, ← hd]; rfl
  rw [node?, mark, Nodes.records_mark, Nodes.markers_mark _ _ hdata, hr, Option.map_some, hd,
    Markers.content_note_self hm]

/-- A pushed node is found under the size, and all others as before. -/
theorem node?_push (doc : Document) (node : Node) (x : Handle) :
    (doc.push node).node? x = if x = doc.size then some node else doc.node? x := by
  rw [push]
  split
  · rename_i hx
    subst hx
    have hr : (doc.pushRecord ⟨node.content.data, node.place⟩).nodes.records[doc.size]? =
        some ⟨node.content.data, node.place⟩ := by
      show (doc.nodes.records.push _)[doc.nodes.records.size]? = _
      simp
    exact node?_mark_self _ hr (doc.nodes.mentions_of_size_le _ (Nat.le_refl _)) rfl
  · rename_i hx
    rw [node?_mark_of_ne _ hx, node?_pushRecord, if_neg hx]

/-! ## Giving a node other content -/

/-- The kind of a node as the store and the tables tell it. -/
theorem kind?_eq_some_iff {doc : Document} {h : Handle} {kind : Kind} :
    doc.kind? h = some kind ↔ ∃ record, doc.nodes.records[h]? = some record ∧
      (doc.nodes.markers.content h record.data).kind = kind := by
  rw [kind?, node?, Option.map_map, Option.map_eq_some_iff]
  rfl

/-- Nothing is noted about a node that the store tells all about. -/
theorem mentions_of_kind? {doc : Document} {h : Handle} {kind : Kind} (hk : doc.kind? h = some kind)
    (hf : kind ≠ .fragment) (hp : kind ≠ .placeholder) (hc : kind ≠ .comment) :
    doc.nodes.markers.mentions h = false := by
  obtain ⟨record, hr, rfl⟩ := kind?_eq_some_iff.mp hk
  have hfit := doc.nodes.fitting h
  rw [hr] at hfit
  have hplaceholder : h ∉ doc.nodes.markers.placeholders := fun hm =>
    hp (congrArg Content.kind (Markers.content_of_placeholder hm record.data))
  have hfragment : h ∉ doc.nodes.markers.fragments := fun hm =>
    hf (congrArg Content.kind (Markers.content_of_fragment hplaceholder hm record.data))
  refine Markers.mentions_eq_false_iff.mpr ⟨hfragment, hplaceholder, ?_⟩
  refine Option.eq_none_iff_forall_ne_some.mpr fun data hcomment => hc ?_
  have hd : record.data = .comment := Option.some.inj (hfit (.comment data) hcomment)
  rw [Markers.content_of_neither hplaceholder hfragment, hd]
  rfl

/-- A comment gets another text in the table of comments. -/
theorem node?_mark_comment {doc : Document} {h : Handle} (hk : doc.kind? h = some .comment)
    (data : String) :
    (doc.mark h (.comment data)).node? h =
      (doc.node? h).map fun node => { node with content := .comment data } := by
  obtain ⟨record, hr, hkind⟩ := kind?_eq_some_iff.mp hk
  have hd := doc.nodes.data_content h hr
  have hp : h ∉ doc.nodes.markers.placeholders := fun hm => by
    rw [Markers.content_of_placeholder hm] at hkind
    cases hkind
  have hf : h ∉ doc.nodes.markers.fragments := fun hm => by
    rw [Markers.content_of_fragment hp hm] at hkind
    cases hkind
  have hcomment : record.data = .comment := by
    rw [Markers.content_of_neither hp hf] at hkind
    cases hown : record.data <;> rw [hown] at hkind <;> first | rfl | cases hkind
  have hdata : doc.nodes.data? h = some (Content.comment data).data := by
    rw [Nodes.data?, hr, Option.map_some, hcomment]
    rfl
  rw [node?, node?, mark, Nodes.records_mark, Nodes.markers_mark _ _ hdata, hr]
  simp only [Option.map_some, hcomment, Markers.content_note_comment hp hf]

/-- The store gets other data of a node about which nothing is noted. -/
theorem node?_write {doc : Document} {h : Handle} (hm : doc.nodes.markers.mentions h = false)
    (data : NodeData) (x : Handle) :
    ({ doc with nodes := doc.nodes.write h data } : Document).node? x =
      if h = x then (doc.node? x).map fun node => { node with content := data.content none }
      else doc.node? x := by
  have hwrite : (doc.nodes.write h data).records =
      doc.nodes.records.modify h fun record => { record with data := data } := by
    rw [Nodes.write, dif_neg (Bool.eq_false_iff.mp hm)]
  obtain ⟨hf, hp, hc⟩ := Markers.mentions_eq_false_iff.mp hm
  rw [node?, node?]
  dsimp only
  rw [hwrite, Nodes.markers_write, Array.getElem?_modify]
  split
  · rename_i hx
    subst hx
    rw [Option.map_map, Option.map_map]
    refine congrArg (Option.map · _) (funext fun record => ?_)
    show Node.mk (doc.nodes.markers.content h data) record.place = _
    rw [Markers.content_of_neither hp hf, hc]
    rfl
  · rfl

/-- Fragments and placeholders have no data that could be other ones. -/
theorem setContent_of_noted {doc : Document} {h : Handle} {content : Content}
    (hk : doc.kind? h = some content.kind) (hc : content = .fragment ∨ content = .placeholder) :
    doc.setContent h content = doc ∧ ∃ place, doc.node? h = some ⟨content, place⟩ := by
  obtain ⟨record, hr, hkind⟩ := kind?_eq_some_iff.mp hk
  have hnode : ∀ own, doc.nodes.markers.content h record.data = own →
      doc.node? h = some ⟨own, record.place⟩ := by
    rintro own rfl
    rw [node?, hr, Option.map_some]
  have hkept : doc.nodes.markers.mentions h = true → doc.nodes.write h content.data = doc.nodes :=
    fun hm => dif_pos hm
  rcases hc with rfl | rfl
  · have hm : doc.nodes.markers.mentions h = true := by
      simp [Markers.mentions, Markers.mem_fragments_of_kind hkind]
    exact ⟨congrArg (Document.mk · doc.rootListeners) (hkept hm),
      record.place, hnode _ (Content.eq_fragment_iff.mp hkind)⟩
  · have hm : doc.nodes.markers.mentions h = true := by
      simp [Markers.mentions, Markers.mem_placeholders_of_kind hkind]
    exact ⟨congrArg (Document.mk · doc.rootListeners) (hkept hm),
      record.place, hnode _ (Content.eq_placeholder_iff.mp hkind)⟩

/-- Other content of a node does not move any node. -/
theorem place?_setContent (doc : Document) (h x : Handle) (content : Content) :
    (doc.setContent h content).place? x = doc.place? x := doc.nodes.map_place_rewrite h content x

@[simp] theorem size_setContent (doc : Document) (h : Handle) (content : Content) :
    (doc.setContent h content).size = doc.size := by
  have hsame : ∀ x, (doc.setContent h content).size ≤ x ↔ doc.size ≤ x := by
    intro x
    have hp := place?_setContent doc h x content
    rw [place?_eq, place?_eq] at hp
    rw [← node?_eq_none_iff, ← node?_eq_none_iff, ← Option.map_eq_none_iff, hp,
      Option.map_eq_none_iff]
  exact Nat.le_antisymm ((hsame _).mpr (Nat.le_refl _)) ((hsame _).mp (Nat.le_refl _))

/-- Other content of a node leaves the other nodes as they are. -/
theorem node?_setContent_of_ne (doc : Document) {h x : Handle} (hne : x ≠ h) (content : Content) :
    (doc.setContent h content).node? x = doc.node? x := by
  have hwrite : ∀ data, ({ doc with nodes := doc.nodes.write h data } : Document).node? x =
      doc.node? x := by
    intro data
    by_cases hm : doc.nodes.markers.mentions h = true
    · rw [Nodes.write, dif_pos hm]
    · rw [node?_write (Bool.eq_false_iff.mpr hm), if_neg (Ne.symm hne)]
  cases content with
  | comment data => exact node?_mark_of_ne doc hne _
  | fragment => exact hwrite _
  | placeholder => exact hwrite _
  | document => exact hwrite _
  | element => exact hwrite _
  | text => exact hwrite _

/-- A node gets other content of its kind. -/
theorem node?_setContent {doc : Document} {h : Handle} {content : Content}
    (hk : doc.kind? h = some content.kind) (x : Handle) :
    (doc.setContent h content).node? x =
      if h = x then (doc.node? x).map fun node => { node with content := content }
      else doc.node? x := by
  by_cases hnoted : content = .fragment ∨ content = .placeholder
  · obtain ⟨hsame, place, hn⟩ := setContent_of_noted hk hnoted
    rw [hsame]
    split
    · rename_i hx
      rw [← hx, hn]
      rfl
    · rfl
  · rw [not_or, ← Content.eq_fragment_iff, ← Content.eq_placeholder_iff] at hnoted
    cases content with
    | comment data =>
      show (doc.mark h _).node? x = _
      split
      · rename_i hx
        subst hx
        exact node?_mark_comment hk data
      · rename_i hx
        exact node?_mark_of_ne doc (Ne.symm hx) _
    | fragment => exact absurd rfl hnoted.1
    | placeholder => exact absurd rfl hnoted.2
    | document => exact node?_write (mentions_of_kind? hk nofun nofun nofun) _ x
    | element => exact node?_write (mentions_of_kind? hk nofun nofun nofun) _ x
    | text => exact node?_write (mentions_of_kind? hk nofun nofun nofun) _ x

end Document

end PageHost
