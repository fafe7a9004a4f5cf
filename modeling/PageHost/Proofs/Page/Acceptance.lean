import PageHost.Proofs.Document.Anchor
import PageHost.Proofs.Page.Insertions
/-!
# What is accepted, and what a refusal leaves

An insertion is checked before anything moves: `Accepts` lists what is asked of the parent
and of the nodes, and nothing else is asked. An operation that is refused leaves the whole
document as it was. An insertion that has passed its checks can still stop half-way, at an
anchor that no parent lists; that is neither an acceptance nor a refusal.
-/

namespace PageHost.Document

variable {doc : Document} {reference parent : Handle} {nodes moved : List Handle}

/-! ## Acceptance -/

/-- The nodes may be put under the parent. -/
structure Accepts (doc : Document) (parent : Handle) (nodes : List Handle) : Prop where
  container : doc.kind? parent = some .document ∨ doc.kind? parent = some .fragment ∨
    doc.kind? parent = some .element
  exist : ∀ n ∈ nodes, doc.contains n = true
  /-- Of the nodes that would move none is a document, the parent itself or above it. -/
  free : ∀ c ∈ doc.dissolved nodes,
    doc.kind? c ≠ some .document ∧ c ≠ parent ∧ ¬ doc.Above parent c

/-- The nodes may be put beside the reference node, or in its place. -/
structure AcceptsBeside (doc : Document) (reference : Handle) (nodes : List Handle) : Prop where
  present : doc.contains reference = true
  not_mem : reference ∉ nodes
  parent : ∃ parent, doc.parent? reference = some parent ∧ doc.Accepts parent nodes

/-- The document, fragments and elements hold children. -/
theorem container_iff (doc : Document) (h : Handle) :
    (∃ kind, doc.kind? h = some kind ∧ kind.holdsChildren = true) ↔
      doc.kind? h = some .document ∨ doc.kind? h = some .fragment ∨
        doc.kind? h = some .element := by
  cases doc.kind? h with
  | none => simp
  | some kind => cases kind <;> simp [Kind.holdsChildren]

/-- Only nodes that exist can be dissolved into those that move. -/
theorem flatten_ok_iff (doc : Document) (nodes moved : List Handle) :
    doc.flatten nodes = .ok moved ↔
      (∀ n ∈ nodes, doc.contains n = true) ∧ moved = doc.dissolved nodes := by
  constructor
  · intro h
    refine ⟨?_, eq_dissolved_of_flatten h⟩
    induction nodes generalizing moved with
    | nil => exact nofun
    | cons n rest ih =>
      rw [flatten] at h
      split at h
      · cases h
      · rename_i kind hk
        rw [kindOf_ok_iff] at hk
        split at h
        · cases h
        · rename_i later hl
          have hn : doc.contains n = true := (contains_iff doc n).mpr (lt_size_of_kind? hk)
          exact List.forall_mem_cons.mpr ⟨hn, ih later hl⟩
  · rintro ⟨hexist, rfl⟩
    induction nodes with
    | nil => rfl
    | cons n rest ih =>
      obtain ⟨hn, hrest⟩ := List.forall_mem_cons.mp hexist
      obtain ⟨kind, hk⟩ := exists_kind? ((contains_iff doc n).mp hn)
      rw [flatten, (kindOf_ok_iff doc n kind).mpr hk, ih hrest]
      simp only [dissolved, List.flatMap_cons, hk, Option.some.injEq]

/-- What would move exists. -/
theorem exists_kind?_of_mem_dissolved (ht : doc.Treelike)
    (hexist : ∀ n ∈ nodes, doc.contains n = true) {c : Handle} (hc : c ∈ doc.dissolved nodes) :
    ∃ kind, doc.kind? c = some kind := by
  obtain ⟨n, hn, hin⟩ := List.mem_flatMap.mp hc
  apply exists_kind?
  split at hin
  · exact ht.child_lt_size hin
  · rw [List.mem_singleton.mp hin]
    exact (contains_iff doc n).mp (hexist n hn)

/-- The checks pass exactly if the parent accepts the nodes. -/
theorem movable_iff_accepts (ht : doc.Treelike) (parent : Handle) (nodes moved : List Handle) :
    doc.movable parent nodes = .ok moved ↔
      doc.Accepts parent nodes ∧ moved = doc.dissolved nodes := by
  rw [movable_ok_iff, container_iff, flatten_ok_iff, mayAllMove_ok_iff]
  constructor
  · rintro ⟨hcontainer, ⟨hexist, rfl⟩, hmay⟩
    refine ⟨⟨hcontainer, hexist, fun c hc => ?_⟩, rfl⟩
    obtain ⟨⟨kind, hk, hkind⟩, hne, habove⟩ := hmay c hc
    rw [ht.mem_ancestors_iff] at habove
    exact ⟨by simpa [hk] using hkind, hne, habove⟩
  · rintro ⟨⟨hcontainer, hexist, hfree⟩, rfl⟩
    refine ⟨hcontainer, ⟨hexist, rfl⟩, fun c hc => ?_⟩
    obtain ⟨kind, hk⟩ := exists_kind?_of_mem_dissolved ht hexist hc
    obtain ⟨hkind, hne, habove⟩ := hfree c hc
    rw [ht.mem_ancestors_iff]
    exact ⟨⟨kind, hk, by simpa [hk] using hkind⟩, hne, habove⟩

/-- A reference is an anchor when it has a parent and is not among the nodes. -/
theorem anchorParent_ok_iff (doc : Document) (reference parent : Handle) (nodes : List Handle) :
    doc.anchorParent reference nodes = .ok parent ↔
      doc.parent? reference = some parent ∧ reference ∉ nodes := by
  refine ⟨anchorParent_ok, ?_⟩
  rintro ⟨hp, hn⟩
  unfold anchorParent
  rw [if_pos ((contains_iff doc reference).mpr (lt_size_of_parent? hp)), hp]
  exact if_neg hn

/-- Adding nodes at the end of a parent is carried out exactly if the parent accepts them. -/
theorem appendChildren_ok_iff (ht : doc.Treelike) (parent : Handle) (nodes : List Handle) :
    (∃ after, appendChildren parent nodes doc = .ok () after) ↔ doc.Accepts parent nodes := by
  constructor
  · rintro ⟨after, h⟩
    obtain ⟨moved, hm, -⟩ := appendChildren_ok h
    exact ((movable_iff_accepts ht parent nodes moved).mp hm).1
  · intro ha
    have hm := (movable_iff_accepts ht parent nodes _).mpr ⟨ha, rfl⟩
    unfold appendChildren
    rw [run_bind_of_ok (prepare_of_ok hm)]
    exact ⟨_, rfl⟩

/-! ## Insertions beside a node -/

/-- The operation has stopped half-way at some anchor. -/
def Stops (result : EStateM.Result DomError Document Unit) : Prop :=
  ∃ anchor, failure result = some (.unlistedAnchor anchor)

/-- The operation is carried out, or it has stopped half-way. -/
def GoesAhead (result : EStateM.Result DomError Document Unit) : Prop :=
  (∃ after, result = .ok () after) ∨ Stops result

/-- What succeeds does not stop half-way. -/
theorem not_stops_of_ok {result : EStateM.Result DomError Document Unit}
    (h : ∃ after, result = .ok () after) : ¬ Stops result := by
  obtain ⟨after, rfl⟩ := h
  rintro ⟨anchor, hstop⟩
  cases hstop

/-- Linking before an anchor is never refused. -/
theorem goesAhead_linkBefore (doc : Document) (anchor : Handle) (nodes : List Handle) :
    GoesAhead (linkBefore anchor nodes doc) := by
  unfold linkBefore
  split
  · exact Or.inr ⟨anchor, rfl⟩
  · split
    · exact Or.inl ⟨_, rfl⟩
    · exact Or.inr ⟨anchor, rfl⟩

/-- An operation beside a reference node goes ahead exactly if its nodes are accepted there, when
all that it does after the checks goes ahead. -/
theorem goesAhead_beside_iff (ht : doc.Treelike) {finish : Handle → List Handle → Change Unit}
    (hfinish : ∀ parent moved doc, GoesAhead (finish parent moved doc)) :
    GoesAhead ((do
      let parent ← check fun doc => doc.anchorParent reference nodes
      let moved ← prepare parent nodes
      finish parent moved : Change Unit) doc) ↔ doc.AcceptsBeside reference nodes := by
  have hpassed : ∀ {parent moved}, doc.anchorParent reference nodes = .ok parent →
      doc.movable parent nodes = .ok moved → doc.AcceptsBeside reference nodes := by
    intro parent moved ha hm
    obtain ⟨hp, hn⟩ := anchorParent_ok ha
    have haccepts := ((movable_iff_accepts ht parent nodes moved).mp hm).1
    exact ⟨(contains_iff doc reference).mpr (lt_size_of_parent? hp), hn, parent, hp, haccepts⟩
  constructor
  · rintro (⟨after, hok⟩ | ⟨anchor, hstop⟩)
    · cases ha : doc.anchorParent reference nodes with
      | error e =>
        rw [run_bind_of_error (check_of_error ha)] at hok
        cases hok
      | ok parent =>
        obtain ⟨parent', hp, hm, -⟩ := beside_ok hok
        rw [(anchorParent_ok ha).1] at hp
        cases hp
        exact hpassed ha hm
    · obtain ⟨parent, moved, ha, hm, -⟩ := stops_beside.mp hstop
      exact hpassed ha hm
  · rintro ⟨-, hn, parent, hp, haccepts⟩
    have ha := (anchorParent_ok_iff doc reference parent nodes).mpr ⟨hp, hn⟩
    have hm := (movable_iff_accepts ht parent nodes _).mpr ⟨haccepts, rfl⟩
    rw [run_bind_of_ok (check_of_ok ha), run_bind_of_ok (prepare_of_ok hm)]
    exact hfinish parent _ _

/-- Inserting before a reference goes ahead exactly when nodes and reference are accepted. -/
theorem goesAhead_insertBefore_iff (ht : doc.Treelike) :
    GoesAhead (insertBefore reference nodes doc) ↔ doc.AcceptsBeside reference nodes :=
  goesAhead_beside_iff ht fun _ moved doc => goesAhead_linkBefore doc reference moved

theorem goesAhead_replaceWith_iff (ht : doc.Treelike) :
    GoesAhead (replaceWith reference nodes doc) ↔ doc.AcceptsBeside reference nodes := by
  apply goesAhead_beside_iff ht
  intro parent moved doc
  rcases goesAhead_linkBefore doc reference moved with ⟨after, hok⟩ | ⟨anchor, hstop⟩
  · rw [run_bind_of_ok hok]
    exact Or.inl ⟨_, rfl⟩
  · rw [run_bind_of_error (eq_error_of_failure hstop)]
    exact Or.inr ⟨anchor, rfl⟩

theorem goesAhead_insertAfter_iff (ht : doc.Treelike) :
    GoesAhead (insertAfter reference nodes doc) ↔ doc.AcceptsBeside reference nodes := by
  apply goesAhead_beside_iff ht
  intro parent moved doc
  have hget : (get : Change Document) doc = .ok doc doc := rfl
  rw [run_bind_of_ok hget]
  cases doc.nextSibling? parent reference with
  | none => exact Or.inl ⟨_, rfl⟩
  | some next => exact goesAhead_linkBefore doc next moved

/-- Inserting before a reference stops half-way exactly when the anchor slips. -/
theorem stops_insertBefore_iff (ht : doc.Treelike) :
    Stops (insertBefore reference nodes doc) ↔ doc.Slips reference nodes := by
  constructor
  · rintro ⟨anchor, hstop⟩
    exact ((insertBefore_stops_iff ht reference nodes).mp hstop).2
  · exact fun hs => ⟨reference, (insertBefore_stops_iff ht reference nodes).mpr ⟨rfl, hs⟩⟩

theorem stops_replaceWith_iff (ht : doc.Treelike) :
    Stops (replaceWith reference nodes doc) ↔ doc.Slips reference nodes := by
  constructor
  · rintro ⟨anchor, hstop⟩
    exact ((replaceWith_stops_iff ht reference nodes).mp hstop).2
  · exact fun hs => ⟨reference, (replaceWith_stops_iff ht reference nodes).mpr ⟨rfl, hs⟩⟩

/-- What goes ahead and does not stop is carried out. -/
theorem ok_iff_of_goesAhead_iff {result : EStateM.Result DomError Document Unit}
    {accepted stops : Prop} (h : GoesAhead result ↔ accepted) (hs : Stops result ↔ stops) :
    (∃ after, result = .ok () after) ↔ accepted ∧ ¬ stops := by
  rw [← h, ← hs]
  constructor
  · exact fun hok => ⟨Or.inl hok, not_stops_of_ok hok⟩
  · exact fun hahead => hahead.1.resolve_right hahead.2

/-! ## Refusals -/

/-- Why an operation fails, if it does. To make a node never fails. -/
def Operation.failure? (doc : Document) : Operation → Option DomError
  | .appendChildren parent nodes => failure (Document.appendChildren parent nodes doc)
  | .insertBefore reference nodes => failure (Document.insertBefore reference nodes doc)
  | .insertAfter reference nodes => failure (Document.insertAfter reference nodes doc)
  | .replaceWith old nodes => failure (Document.replaceWith old nodes doc)
  | .detach node => failure (Document.detach node doc)
  | .setText node text => failure (Document.setText node text doc)
  | .setAttribute node name space value =>
    failure (Document.setAttribute node name space value doc)
  | .removeAttribute node name space => failure (Document.removeAttribute node name space doc)
  | .deepClone node => failure (Document.deepClone node doc)
  | .createElement _ _ | .createText _ | .createComment _ | .createPlaceholder
  | .createFragment => none

/-- An insertion that is refused leaves the document as it was. -/
theorem Insertion.left_eq {result : EStateM.Result DomError Document Unit}
    (h : Insertion doc nodes result) {e : DomError} (hf : failure result = some e)
    (he : e.isStop = false) : left result = doc := by
  rw [eq_error_of_failure hf] at h
  refine eq_of_insertion_error h ?_
  rintro node rfl
  cases he

/-- A change that is declined leaves the document as it was. -/
theorem Declines.left_eq {α : Type} {change : Change α} (h : Declines change) {e : DomError}
    (hf : failure (change doc) = some e) : left (change doc) = doc :=
  (h doc e _ (eq_error_of_failure hf)).1

/-- An operation that is refused leaves the whole document as it was. -/
theorem Operation.run_of_failure (ht : doc.Treelike) {operation : Operation} {e : DomError}
    (hf : operation.failure? doc = some e) (he : e.isStop = false) : operation.run doc = doc := by
  cases operation with
  | createElement | createText | createComment | createPlaceholder | createFragment => cases hf
  | appendChildren parent nodes => exact (insertion_appendChildren doc parent nodes).left_eq hf he
  | insertBefore reference nodes => exact (insertion_insertBefore ht reference nodes).left_eq hf he
  | insertAfter reference nodes => exact (insertion_insertAfter ht reference nodes).left_eq hf he
  | replaceWith old nodes => exact (insertion_replaceWith ht old nodes).left_eq hf he
  | detach node => exact (declines_detach node).left_eq hf
  | setText node text => exact (declines_setText node text).left_eq hf
  | setAttribute node name space value =>
    exact (declines_setAttribute node name space value).left_eq hf
  | removeAttribute node name space => exact (declines_removeAttribute node name space).left_eq hf
  | deepClone node => exact (declines_deepClone node).left_eq hf

/-! ## All operations -/

/-- Nodes are added at the end of exactly those parents that accept them. Beside a reference node,
or in its place, they are put exactly where they are accepted. The one exception is a reference
node that slips: all checks pass, and the operation stops half-way. To put nodes after a node never
stops. Any operation that is refused leaves the whole document as it was. -/
theorem operations_accept_or_change_nothing (hr : doc.Reachable) :
    (∀ parent nodes, (∃ after, appendChildren parent nodes doc = .ok () after) ↔
      doc.Accepts parent nodes) ∧
    (∀ reference nodes,
      ((∃ after, insertAfter reference nodes doc = .ok () after) ↔
        doc.AcceptsBeside reference nodes) ∧
      ((∃ after, insertBefore reference nodes doc = .ok () after) ↔
        doc.AcceptsBeside reference nodes ∧ ¬ doc.Slips reference nodes) ∧
      ((∃ after, replaceWith reference nodes doc = .ok () after) ↔
        doc.AcceptsBeside reference nodes ∧ ¬ doc.Slips reference nodes) ∧
      (Stops (insertBefore reference nodes doc) ↔ doc.Slips reference nodes) ∧
      (Stops (replaceWith reference nodes doc) ↔ doc.Slips reference nodes) ∧
      (doc.Slips reference nodes → doc.AcceptsBeside reference nodes)) ∧
    ∀ (operation : Operation) e, operation.failure? doc = some e → e.isStop = false →
      operation.run doc = doc := by
  have ht := hr.treelike
  refine ⟨appendChildren_ok_iff ht, fun reference nodes => ?_,
    fun operation e hf he => operation.run_of_failure ht hf he⟩
  have hbefore : GoesAhead (insertBefore reference nodes doc) ↔ doc.AcceptsBeside reference nodes :=
    goesAhead_insertBefore_iff ht
  have hreplace : GoesAhead (replaceWith reference nodes doc) ↔ doc.AcceptsBeside reference nodes :=
    goesAhead_replaceWith_iff ht
  have hstops : Stops (insertBefore reference nodes doc) ↔ doc.Slips reference nodes :=
    stops_insertBefore_iff ht
  have hstops' : Stops (replaceWith reference nodes doc) ↔ doc.Slips reference nodes :=
    stops_replaceWith_iff ht
  have hnever : Stops (insertAfter reference nodes doc) ↔ False :=
    iff_false_intro fun ⟨_, hstop⟩ => insertAfter_not_stops ht reference nodes hstop
  refine ⟨?_, ok_iff_of_goesAhead_iff hbefore hstops, ok_iff_of_goesAhead_iff hreplace hstops',
    hstops, hstops', fun hs => hbefore.mp (Or.inr (hstops.mpr hs))⟩
  rw [ok_iff_of_goesAhead_iff (goesAhead_insertAfter_iff ht) hnever, not_false_iff, and_true]

/-- A list with an item, and a fragment with a text. The fragment may go into the list, right before
its item too. The list may not go into its item, and nothing changes when it is refused. The text
slips when its own fragment is to go before it. -/
theorem operations_accept_or_change_nothing_list :
    let doc := afterOperations [.createElement "ul" none, .createElement "li" none,
      .createFragment, .createText "x", .appendChildren 4 [5], .appendChildren 6 [7]]
    doc.Reachable ∧ doc.Accepts 4 [6] ∧ doc.AcceptsBeside 5 [6] ∧ ¬ doc.Accepts 5 [4] ∧
      (Operation.appendChildren 5 [4]).failure? doc = some (.hierarchyRequest 5 4) ∧
      (Operation.appendChildren 5 [4]).run doc = doc ∧ doc.Slips 7 [6] ∧
      doc.AcceptsBeside 7 [6] ∧ ¬ ∃ after, insertBefore 7 [6] doc = .ok () after := by
  intro doc
  have hr : doc.Reachable := reachable_afterOperations _
  obtain ⟨happend, hbeside, hrefused⟩ := operations_accept_or_change_nothing hr
  obtain ⟨-, hbefore, -, hstops, -, hslips⟩ := hbeside 7 [6]
  have hcycle : (Operation.appendChildren 5 [4]).failure? doc = some (.hierarchyRequest 5 4) := by
    decide +kernel
  have hinto : ∃ after, appendChildren 4 [6] doc = .ok () after :=
    ⟨_, eq_ok_of_given (by decide +kernel)⟩
  have hnext : ∃ after, insertAfter 5 [6] doc = .ok () after :=
    ⟨_, eq_ok_of_given (by decide +kernel)⟩
  have hslip : doc.Slips 7 [6] := hstops.mp ⟨7, by decide +kernel⟩
  refine ⟨hr, (happend 4 [6]).mp hinto, (hbeside 5 [6]).1.mp hnext, fun ha => ?_, hcycle,
    hrefused _ _ hcycle rfl, hslip, hslips hslip, fun hok => (hbefore.mp hok).2 hslip⟩
  obtain ⟨after, hok⟩ := (happend 5 [4]).mpr ha
  rw [Operation.failure?, hok] at hcycle
  cases hcycle

end PageHost.Document
