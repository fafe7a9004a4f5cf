import PageHost.Proofs.Page.Batch
import PageHost.Proofs.Page.Endings
/-!
# Setting an attribute and removing it again

A written attribute is found again by its name and namespace and taken away, and what is
left is what would have been left without the write. There are two exceptions. The empty
text for a namespace is written as no namespace and then never found, so the write stays
unless it changed nothing. And a truth value for `checked` is noted a second time on a live
`input`, and the note stays.
-/

namespace PageHost

namespace Payload

/-- The value has a text that an attribute can get. -/
def isWritten : Payload → Bool
  | .text _ | .number _ | .bool _ => true
  | .handle _ | .null => false

/-- Attributes have a text for infinities and for not-a-number too. -/
theorem exists_text? (value : Float) : ∃ text, attributeLayout.text? value = some text := by
  unfold Layout.text?
  cases FloatParts.ofFloat value with
  | nan => exact ⟨_, rfl⟩
  | infinite negative => exact ⟨_, rfl⟩
  | zero negative => exact ⟨_, rfl⟩
  | finite negative magnitude => exact ⟨_, rfl⟩

/-- A payload that is written has a text. -/
theorem exists_attributeText {value : Payload} (h : value.isWritten = true) :
    ∃ text, value.attributeText = .ok (some text) := by
  cases value with
  | text value => exact ⟨value, rfl⟩
  | bool value => exact ⟨_, rfl⟩
  | number value =>
    obtain ⟨text, ht⟩ := exists_text? value
    exact ⟨text, congrArg Except.ok ht⟩
  | handle node => cases h
  | null => cases h

end Payload

namespace Document

/-! ## Lists of attributes -/

section Lists

variable {a : Attribute} {p : Attribute → Bool}

/-- Dropping the first attribute of a key undoes writing one of that key. -/
theorem eraseP_writeAttribute (hp : ∀ b, p b = true ↔ b.name = a.name ∧ b.space = a.space)
    (attributes more : List Attribute) :
    (writeAttribute attributes a ++ more).eraseP p = attributes.eraseP p ++ more := by
  induction attributes with
  | nil =>
    have hself : p a = true := (hp a).mpr ⟨rfl, rfl⟩
    rw [writeAttribute, List.singleton_append, List.eraseP_cons_of_pos hself]
    rfl
  | cons b rest ih =>
    rw [writeAttribute]
    by_cases hb : b.name = a.name ∧ b.space = a.space
    · have hold : p b = true := (hp b).mpr hb
      have hnew : p { b with value := a.value } = true := (hp _).mpr hb
      rw [if_pos hb, List.cons_append, List.eraseP_cons_of_pos hnew, List.eraseP_cons_of_pos hold]
    · have hother : ¬ p b = true := mt (hp b).mp hb
      rw [if_neg hb, List.cons_append, List.eraseP_cons_of_neg hother,
        List.eraseP_cons_of_neg hother, ih, List.cons_append]

/-- A write leaves a list as it is where the first of its key is what is written. -/
theorem writeAttribute_append_eq_iff (hp : ∀ b, p b = true ↔ b.name = a.name ∧ b.space = a.space)
    (attributes more : List Attribute) :
    writeAttribute attributes a ++ more = attributes ↔
      more = [] ∧ attributes.find? p = some a := by
  induction attributes with
  | nil => simp [writeAttribute]
  | cons b rest ih =>
    rw [writeAttribute]
    by_cases hb : b.name = a.name ∧ b.space = a.space
    · have hsame : { b with value := a.value } = b ↔ b = a := by
        obtain ⟨hname, hspace⟩ := hb
        constructor
        · intro h
          rw [← h, hname, hspace]
        · rintro rfl
          rfl
      rw [if_pos hb, List.cons_append, List.cons.injEq, hsame, List.append_right_eq_self,
        List.find?_cons_of_pos ((hp b).mpr hb), Option.some.injEq]
      exact and_comm
    · rw [if_neg hb, List.cons_append, List.cons.injEq, and_iff_right rfl, ih,
        List.find?_cons_of_neg (mt (hp b).mp hb)]

/-- Only the first part of a list loses an entry that the second does not hold. -/
theorem eraseP_append_of_none {more : List Attribute} (hm : ∀ b ∈ more, ¬ p b = true)
    (attributes : List Attribute) :
    (attributes ++ more).eraseP p = attributes.eraseP p ++ more := by
  rw [List.eraseP_append, List.eraseP_of_forall_not hm]
  split
  · rfl
  · next hnone =>
    rw [List.eraseP_of_forall_not fun b hb hself => hnone (List.any_eq_true.mpr ⟨b, hb, hself⟩)]

/-- Dropping an attribute of another key undoes a write only where there is nothing to undo. -/
theorem eraseP_writeAttribute_iff
    (hp : ∀ b, p b = true → ¬ (b.name = a.name ∧ b.space = a.space))
    {more : List Attribute} (hm : ∀ b ∈ more, ¬ p b = true) (attributes : List Attribute) :
    (writeAttribute attributes a ++ more).eraseP p = attributes.eraseP p ↔
      writeAttribute attributes a ++ more = attributes := by
  induction attributes with
  | nil =>
    have hother : ¬ p a = true := fun hself => hp a hself ⟨rfl, rfl⟩
    rw [writeAttribute, List.singleton_append, List.eraseP_cons_of_neg hother,
      List.eraseP_of_forall_not hm]
    rfl
  | cons b rest ih =>
    rw [writeAttribute]
    by_cases hb : b.name = a.name ∧ b.space = a.space
    · have hold : ¬ p b = true := fun hself => hp b hself hb
      have hnew : ¬ p { b with value := a.value } = true := fun hself => hp _ hself hb
      rw [if_pos hb, List.cons_append, List.eraseP_cons_of_neg hnew, List.eraseP_cons_of_neg hold,
        List.cons.injEq, List.cons.injEq, eraseP_append_of_none hm, List.append_right_eq_self,
        List.append_right_eq_self]
    · rw [if_neg hb, List.cons_append, List.cons.injEq]
      by_cases hself : p b = true
      · rw [List.eraseP_cons_of_pos hself, List.eraseP_cons_of_pos hself]
        exact (and_iff_right rfl).symm
      · rw [List.eraseP_cons_of_neg hself, List.eraseP_cons_of_neg hself, List.cons.injEq, ih]

end Lists

/-- A namespace that is not empty is kept. -/
theorem attributeSpace_of_ne {space : Option String} (h : space ≠ some "") :
    attributeSpace space = space := by
  unfold attributeSpace
  split
  · exact absurd rfl h
  · rfl

/-- A state is noted for a live input whose tick is set to true or false, and for nothing else. -/
theorem notedState_eq_nil_iff (element : ElementName) (live : Bool) (a : Attribute) :
    notedState element live a = [] ↔
      ¬ (live = true ∧ element.tag = "input" ∧ a.name = "checked" ∧
        (a.value = "true" ∨ a.value = "false")) := by
  unfold notedState
  split
  · next h => exact ⟨nofun, fun hn => absurd h hn⟩
  · next h => exact ⟨fun _ => h, fun _ => rfl⟩

/-- A state is noted in the namespace of HTML. -/
theorem space_of_mem_notedState {element : ElementName} {live : Bool} {a b : Attribute}
    (h : b ∈ notedState element live a) : b.space = some htmlSpace := by
  unfold notedState at h
  split at h
  · rw [List.mem_singleton.mp h]
    rfl
  · cases h

/-- What a write and a removal under one name and namespace leave is what the removal alone leaves,
in exactly these cases. A write under the empty namespace goes under none, where the removal does
not look. -/
theorem dropAttribute_writeAttribute_iff (attributes : List Attribute) (name : String)
    (space : Option String) (text : String) {more : List Attribute}
    (hm : ∀ b ∈ more, b.space = some htmlSpace) :
    dropAttribute (writeAttribute attributes ⟨name, attributeSpace space, text⟩ ++ more)
        name space = dropAttribute attributes name space ↔
      more = [] ∧ (space = some "" →
        attributes.find? (fun b => b.name == name && b.space == none) =
          some ⟨name, none, text⟩) := by
  have hkey : ∀ (key : Option String) (b : Attribute),
      (b.name == name && b.space == key) = true ↔ b.name = name ∧ b.space = key := by
    intro key b
    rw [Bool.and_eq_true, beq_iff_eq, beq_iff_eq]
  unfold dropAttribute
  by_cases hs : space = some ""
  · subst hs
    have hother : ∀ b : Attribute, (b.name == name && b.space == some "") = true →
        ¬ (b.name = name ∧ b.space = none) := by
      rintro b hb ⟨-, hnone⟩
      have hempty := ((hkey _ b).mp hb).2
      rw [hnone] at hempty
      cases hempty
    have hmore : ∀ b ∈ more, ¬ (b.name == name && b.space == some "") = true := by
      intro b hb hself
      have hspace := (hm b hb).symm.trans ((hkey _ b).mp hself).2
      exact absurd (Option.some.inj hspace) (by decide)
    rw [forall_prop_of_true rfl]
    exact (eraseP_writeAttribute_iff hother hmore attributes).trans
      (writeAttribute_append_eq_iff (hkey none) attributes more)
  · rw [attributeSpace_of_ne hs, eraseP_writeAttribute (hkey space), List.append_right_eq_self]
    exact (and_iff_left fun h => absurd h hs).symm

/-! ## The two operations on an element -/

section Element

variable {doc : Document} {h : Handle} {node : Node} {element : ElementName}
  {attributes : List Attribute}

/-- New attributes of an element are found at its node. -/
theorem node?_setContent_element (hn : doc.node? h = some node)
    (hc : node.content = .element element attributes) (name : ElementName)
    (list : List Attribute) :
    (doc.setContent h (.element name list)).node? h =
      some { node with content := .element name list } := by
  have hk : doc.kind? h = some (Content.element name list).kind := by
    rw [kind?_of_node? hn, hc]
    rfl
  rw [node?_setContent hk, if_pos rfl, hn]
  rfl

/-- Setting an attribute of an element succeeds and writes it, followed by the state that it
notes. -/
theorem setAttribute_of_element (hn : doc.node? h = some node)
    (hc : node.content = .element element attributes) (name : String) (space : Option String)
    (value : String) :
    setAttribute h name space value doc =
      .ok () (doc.setContent h (.element element
        (writeAttribute attributes ⟨name, attributeSpace space, value⟩ ++
          notedState element node.live ⟨name, attributeSpace space, value⟩))) := by
  unfold setAttribute
  rw [hn]
  dsimp only
  rw [hc]

/-- A removal leaves the attributes without the first of the key, also where there is none. -/
theorem exists_removeAttribute (hn : doc.node? h = some node)
    (hc : node.content = .element element attributes) (name : String) (space : Option String) :
    ∃ found doc', removeAttribute h name space doc = .ok found doc' ∧
      doc'.attributes h = dropAttribute attributes name space := by
  unfold removeAttribute
  rw [hn]
  dsimp only
  rw [hc]
  dsimp only
  split
  · refine ⟨_, _, rfl, ?_⟩
    rw [Document.attributes, node?_setContent_element hn hc]
    rfl
  · next hnone =>
    refine ⟨_, _, rfl, ?_⟩
    rw [Document.attributes, hn, dropAttribute, List.eraseP_of_forall_not]
    · exact congrArg Content.attributes hc
    · intro b hb hself
      exact hnone (List.any_eq_true.mpr ⟨b, hb, hself⟩)

/-- An element has a name and attributes. -/
theorem exists_content_of_element (hk : doc.kind? h = some .element) :
    ∃ node element attributes, doc.node? h = some node ∧
      node.content = .element element attributes := by
  obtain ⟨node, hn, hkind⟩ := Option.map_eq_some_iff.mp hk
  cases hc : node.content with
  | element element attributes => exact ⟨node, element, attributes, hn, hc⟩
  | _ =>
    rw [hc] at hkind
    cases hkind

/-- Both operations succeed on an element, and a removal after a write leaves the attributes that a
removal alone leaves in exactly these cases. -/
theorem exists_removals_after_set (hk : doc.kind? h = some .element) (name : String)
    (space : Option String) (text : String) :
    ∃ written alone after found found', setAttribute h name space text doc = .ok () written ∧
      removeAttribute h name space doc = .ok found alone ∧
      removeAttribute h name space written = .ok found' after ∧
      (after.attributes h = alone.attributes h ↔
        ¬ (doc.live h = true ∧ doc.tag? h = some "input" ∧ name = "checked" ∧
            (text = "true" ∨ text = "false")) ∧
          (space = some "" →
            (doc.attributes h).find? (fun a => a.name == name && a.space == none) =
              some ⟨name, none, text⟩)) := by
  obtain ⟨node, element, attributes, hn, hc⟩ := exists_content_of_element hk
  have hattributes : doc.attributes h = attributes := by
    rw [Document.attributes, hn]
    exact congrArg Content.attributes hc
  have hlive : doc.live h = node.live := by rw [live, hn]
  have htag : doc.tag? h = some element.tag := by
    rw [tag?, elementName?, hn]
    exact congrArg (fun content => content.elementName?.map (·.tag)) hc
  obtain ⟨found, alone, hremove, halone⟩ := exists_removeAttribute hn hc name space
  have hset := setAttribute_of_element hn hc name space text
  obtain ⟨found', after, hclear, hafter⟩ :=
    exists_removeAttribute (node?_setContent_element hn hc _ _) rfl name space
  refine ⟨_, alone, after, found, found', hset, hremove, hclear, ?_⟩
  rw [hafter, halone, dropAttribute_writeAttribute_iff attributes name space text
    (fun b => space_of_mem_notedState), notedState_eq_nil_iff, hattributes, hlive, htag,
    Option.some.injEq]

end Element

end Document

namespace Page

section Steps

variable {page : Page} {id : NodeId} {node : Handle}

theorem lookup_of_bound (h : page.bindings.lookup? id = some node) :
    lookup id page = .ok node page := by
  rw [lookup, Bindings.lookup, h]

/-- A bound id that is not the reserved one is the target that it names. -/
theorem target_of_bound (hid : id ≠ reservedId) (h : page.bindings.lookup? id = some node) :
    target id page = .ok node page := by
  rw [target, if_neg hid, lookup_of_bound h]

/-- What an id means as a target does not depend on the tree. -/
theorem target_withDocument (h : target id page = .ok node page) (doc : Document) :
    target id { page with document := doc } = .ok node { page with document := doc } := by
  unfold target at h ⊢
  split at h
  · next hid =>
    rw [if_pos hid]
    rcases top_cases page with ⟨e, he, -⟩ | ⟨slot, rest, hs, hok⟩
    · rw [he] at h
      cases h
    · rw [hok] at h
      cases h
      exact top_of_slots hs
  · next hid =>
    rw [if_neg hid]
    rcases lookup_cases page id with ⟨e, he, -⟩ | ⟨bound, hl, hok⟩
    · rw [he] at h
      cases h
    · rw [hok] at h
      cases h
      exact lookup_of_bound hl

end Steps

/-- Writing an attribute of an element and removing it again, by a removal or by a null value,
leaves what the removal alone leaves, save in two cases: a truth value for `checked` of a live
`input`, and the empty text for a namespace where the write changes something. -/
theorem removed_after_set_iff {page : Page} {id : NodeId} {node : Handle}
    (htarget : target id page = .ok node page)
    (helement : page.document.kind? node = some .element) (name : String)
    (space : Option String) {value : Payload} (hvalue : value.isWritten = true) :
    ∃ text, value.attributeText = .ok (some text) ∧
      ∃ set removed cleared,
        apply (.setAttribute id name value space) page = .ok .plain set ∧
        apply (.removeAttribute id name space) page = .ok .plain removed ∧
        apply (.removeAttribute id name space) set = .ok .plain cleared ∧
        apply (.setAttribute id name .null space) set = .ok .plain cleared ∧
        (cleared.document.attributes node = removed.document.attributes node ↔
          ¬ (page.document.live node = true ∧ page.document.tag? node = some "input" ∧
              name = "checked" ∧ (text = "true" ∨ text = "false")) ∧
            (space = some "" →
              (page.document.attributes node).find? (fun a => a.name == name && a.space == none) =
                some ⟨name, none, text⟩)) := by
  obtain ⟨text, htext⟩ := Payload.exists_attributeText hvalue
  obtain ⟨written, alone, after, found, found', hset, hremove, hclear, hiff⟩ :=
    Document.exists_removals_after_set helement name space text
  have htarget' := target_withDocument htarget written
  have hwritten : apply (.setAttribute id name value space) page =
      .ok .plain { page with document := written } :=
    (apply_setAttribute_of_text htarget htext name space).trans
      (run_bind_of_ok (onDocument_of_ok page hset) _)
  have halone : apply (.removeAttribute id name space) page =
      .ok .plain { page with document := alone } :=
    (run_bind_of_ok htarget _).trans (run_bind_of_ok (onDocument_of_ok page hremove) _)
  have hcleared : apply (.removeAttribute id name space) { page with document := written } =
      .ok .plain { page with document := after } :=
    (run_bind_of_ok htarget' _).trans (run_bind_of_ok (onDocument_of_ok _ hclear) _)
  have hnull : apply (.setAttribute id name .null space) { page with document := written } =
      .ok .plain { page with document := after } :=
    (apply_setAttribute_of_none htarget' rfl name space).trans
      (run_bind_of_ok (onDocument_of_ok _ hclear) _)
  exact ⟨text, htext, _, _, _, hwritten, halone, hcleared, hnull, hiff⟩

/-- A live `input` loses the second class that it gets, though one was there before the write. -/
theorem class_of_input_is_removed :
    let page := (ofDocument .blank true).afterBatches
      [[.setNode 9 (.handle 3), .pushRoot 9, .createElement "input" 1, .appendChildren 1,
        .setAttribute 1 "class" (.text "old") none, .popRoot]]
    target 1 page = .ok 4 page ∧ page.document.kind? 4 = some .element ∧
      page.document.live 4 = true ∧ page.document.attributes 4 = [⟨"class", none, "old"⟩] ∧
      ∃ set removed cleared,
        apply (.setAttribute 1 "class" (.text "new") none) page = .ok .plain set ∧
        apply (.removeAttribute 1 "class" none) page = .ok .plain removed ∧
        apply (.removeAttribute 1 "class" none) set = .ok .plain cleared ∧
        apply (.setAttribute 1 "class" .null none) set = .ok .plain cleared ∧
        cleared.document.attributes 4 = removed.document.attributes 4 := by
  intro page
  have hbound : page.bindings.lookup? 1 = some 4 := by decide +kernel
  have htarget : target 1 page = .ok 4 page := target_of_bound (by decide) hbound
  have helement : page.document.kind? 4 = some .element := by decide +kernel
  obtain ⟨text, htext, set, removed, cleared, hset, hremoved, hcleared, hnull, hiff⟩ :=
    removed_after_set_iff htarget helement "class" none
      (rfl : (Payload.text "new").isWritten = true)
  refine ⟨htarget, helement, by decide +kernel, by decide +kernel, set, removed, cleared, hset,
    hremoved, hcleared, hnull, hiff.mpr ⟨?_, nofun⟩⟩
  rintro ⟨-, -, hname, -⟩
  exact absurd hname (by decide)

/-- A class that is written with the empty text for its namespace stays through the removal under
that same namespace. So does the note of a truth value for `checked` of a live `input`. -/
theorem removal_leaves_attributes :
    let page := (ofDocument .blank true).afterBatches
      [[.setNode 9 (.handle 3), .pushRoot 9, .createElement "input" 1, .appendChildren 1, .popRoot]]
    let removal : Option String → String → Step Tally := fun space name =>
      apply (.removeAttribute 1 name space)
    let classed := left (apply (.setAttribute 1 "class" (.text "a") (some "")) page)
    let marked := left (apply (.setAttribute 1 "checked" (.bool true) none) page)
    (left (removal (some "") "class" page)).document.attributes 4 = [] ∧
      given (removal (some "") "class" classed) = some .plain ∧
      (left (removal (some "") "class" classed)).document.attributes 4 =
        [⟨"class", none, "a"⟩] ∧
      (left (removal none "checked" page)).document.attributes 4 = [] ∧
      given (removal none "checked" marked) = some .plain ∧
      (left (removal none "checked" marked)).document.attributes 4 =
        [⟨"checked", some htmlSpace, "true"⟩] := by
  decide +kernel

end Page

end PageHost
