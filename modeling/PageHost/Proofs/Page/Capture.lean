import PageHost.Proofs.Delegation.Counted
import PageHost.Proofs.Page.Copies
import PageHost.Proofs.Page.Teardown
/-!
# What saving a template captures

The operands move into a fresh fragment, and with them goes what is below them. The ids
that are released are found in the tree after the move; they are those of the nodes that
were at or below a moved node before. Everything else on the page stays: the other ids with
their nodes, registrations and aliases, and the other templates.
-/

namespace PageHost

namespace Document

variable {doc doc' : Document} {moved : List Handle}

/-- Nodes that come once stand in the fragment in their order. -/
theorem Collects.children_of_nodup (h : doc.Collects moved doc') (hn : moved.Nodup) :
    doc'.children doc.size = moved := by
  rw [h.inside]
  apply List.filter_eq_self.mpr
  intro c hc
  simpa [hn.count] using hc

/-- The collected nodes existed before. -/
theorem Collects.lt_size (h : doc.Collects moved doc') (ht' : doc'.Treelike) {r : Handle}
    (hr : r ∈ moved) : r < doc.size := by
  have hup : doc'.parent? r = some doc.size := by rw [h.parent, if_pos hr]
  have hs := lt_size_of_parent? hup
  rw [h.size] at hs
  refine Nat.lt_of_le_of_ne (Nat.le_of_lt_succ hs) ?_
  rintro rfl
  exact ht'.not_above_self _ (.parent hup)

/-- What is below the fragment was at or below a node that moved. A moved node below another one has
a place of its own in the fragment. -/
theorem Collects.below_iff (h : doc.Collects moved doc') (ht : doc.Treelike) (hn : moved.Nodup)
    (hexist : ∀ r ∈ moved, r < doc.size) {x : Handle} (hx : x < doc.size) :
    doc'.Below doc.size x ↔ ∃ r ∈ moved, doc.Below r x := by
  have hlist := h.children_of_nodup hn
  constructor
  · intro hb
    rcases (Document.below_iff doc.size x).mp hb with rfl | ⟨r, hr, hb⟩
    · exact absurd hx (Nat.lt_irrefl _)
    · rw [hlist] at hr
      have hold : ∀ y, doc'.Below r y → doc.Below r y ∧ y < doc.size := by
        intro y hy
        induction hy with
        | here => exact ⟨.here, hexist r hr⟩
        | @child p c _ hc ih =>
          obtain ⟨hp, hps⟩ := ih
          rw [h.children p (Nat.ne_of_lt hps)] at hc
          have hc' := (List.mem_filter.mp hc).1
          exact ⟨hp.child hc', ht.child_lt_size hc'⟩
      exact ⟨r, hr, (hold x hb).1⟩
  · rintro ⟨r, hr, hb⟩
    have hnear : ∃ s ∈ moved, doc'.Below s x := by
      clear hx
      induction hb with
      | here => exact ⟨r, hr, .here⟩
      | @child p c hp hc ih =>
        by_cases hm : c ∈ moved
        · exact ⟨c, hm, .here⟩
        · obtain ⟨s, hs, hbelow⟩ := ih
          refine ⟨s, hs, hbelow.child ?_⟩
          rw [h.children p (Nat.ne_of_lt (lt_size_of_mem_children hc)), List.mem_filter]
          exact ⟨hc, by simpa using hm⟩
    obtain ⟨s, hs, hbelow⟩ := hnear
    exact (Below.child .here (hlist ▸ hs)).trans hbelow

end Document

namespace Page

/-- Every edit keeps the registrations counted right. -/
theorem counted_apply {page : Page} (h : page.delegation.Counted) (edit : Edit) :
    (left (apply edit page)).delegation.Counted :=
  keeps_apply (fun _ doc call h => h.perform doc call)
    (fun _ doc id name handler h => h.listen doc id name handler) h edit

/-- The registrations of pages that a run passes are counted right. -/
theorem counted_of_passes {start page : Page} (hr : start.Reached) {batches : List (List Edit)}
    (hp : page ∈ start.passes batches) : page.delegation.Counted := by
  have hstart : start.delegation.Counted :=
    hr.invariant (P := fun page => page.delegation.Counted)
      (fun _ _ _ => Delegation.counted_empty) (fun _ edit h => counted_apply h edit) fun _ h => h
  exact passes_invariant (P := fun page => page.delegation.Counted)
    (fun _ edit h => counted_apply h edit) (fun _ h => h) hstart batches page hp

/-- A template is saved in three steps: the operands move into the fragment, the ids inside are
released, and the fragment is registered. -/
theorem saveTemplate_ok {page saved : Page} {name : String} {count : Nat} {tally : Tally}
    (h : apply (.saveTemplate name count) page = .ok tally saved) :
    ∃ nodes operands doc fresh templates,
      page.operands.popMany count = .ok (nodes, operands) ∧
      Document.appendChildren page.document.size nodes page.withFragment = .ok () doc ∧
      page.templates.register (page.gathered operands doc).document name page.document.size =
        .ok (fresh, templates) ∧
      saved = { page.gathered operands doc with templates := templates } := by
  replace h : (saveTemplate name count >>= fun _ => pure .plain : Step Tally) page =
      .ok tally saved := h
  rcases popMany_cases page count with hrefuses | ⟨nodes, operands, hp, -⟩
  · have hrefused : Refuses (saveTemplate name count) page := hrefuses.bind _
    obtain ⟨e, hrun, -⟩ := hrefused
    rw [run_bind_of_error hrun] at h
    cases h
  · cases hc : Document.appendChildren page.document.size nodes page.withFragment with
    | error e doc =>
      rw [run_bind_of_error (saveTemplate_of_error hp hc name)] at h
      cases h
    | ok u doc =>
      have hsteps : saveTemplate name count page =
          (page.gathered operands doc).registerTemplate name page.document.size :=
        saveTemplate_of_ok hp hc name
      have htemplates : (page.gathered operands doc).templates = page.templates :=
        templates_forgetAll _ _
      rw [registerTemplate_eq, htemplates] at hsteps
      cases hreg : page.templates.register (page.gathered operands doc).document name
          page.document.size with
      | error e =>
        rw [hreg] at hsteps
        rw [run_bind_of_error hsteps] at h
        cases h
      | ok result =>
        obtain ⟨fresh, templates⟩ := result
        rw [hreg] at hsteps
        rw [run_bind_of_ok hsteps] at h
        cases h
        exact ⟨nodes, operands, doc, fresh, templates, hp, hc, hreg, rfl⟩

/-- The moved nodes have become the children of the fragment, the given ids, those at or below
them, are released, and nothing else has changed about nodes, ids and registrations. -/
structure Captured (page : Page) (moved : List Handle) (fragment : Handle)
    (ids : List NodeId) (saved : Page) : Prop where
  fresh : page.document.contains fragment = false
  kind : saved.document.kind? fragment = some .fragment
  parentless : saved.document.parent? fragment = none
  list : saved.document.children fragment = moved
  parent : ∀ r ∈ moved, saved.document.parent? r = some fragment
  /-- The other nodes keep their places. -/
  nodes : ∀ x, page.document.contains x = true →
    saved.document.content? x = page.document.content? x ∧
      (x ∉ moved → saved.document.parent? x = page.document.parent? x) ∧
      saved.document.children x =
        (page.document.children x).filter fun c => !decide (c ∈ moved)
  /-- The released ids are those of nodes at or below a moved one. -/
  released : ∀ id, id ∈ ids ↔ ∃ node, page.bindings.lookup? id = some node ∧
    ∃ r ∈ moved, node ∈ page.document.descendants r
  lookup : ∀ id, saved.bindings.lookup? id =
    if id ∈ ids then none else page.bindings.lookup? id
  interest : ∀ id name, saved.delegation.interest? id name =
    if id ∈ ids then none else page.delegation.interest? id name
  nodup : ids.Nodup
  counts : ∀ name, saved.delegation.rootCount name + page.delegation.countOver ids name =
    page.delegation.rootCount name
  /-- The other ids keep their places among the ids of their nodes. -/
  aliases : ∀ id, id ∉ ids → ∀ node, page.bindings.lookup? id = some node →
    saved.bindings.idsOf node = page.bindings.idsOf node

/-- Templates do not matter for what has been captured. -/
theorem Captured.withTemplates {page after : Page} {moved : List Handle} {fragment : Handle}
    {ids : List NodeId} (h : Captured page moved fragment ids after) (templates : Templates) :
    Captured page moved fragment ids { after with templates := templates } where
  __ := h

section Gathered

variable {page after : Page} {moved : List Handle} {ids : List NodeId}

/-- What is below the fragment afterwards are the moved nodes and their descendants. -/
theorem Gathers.below_iff (h : page.Gathers moved after) (hw : page.WellFormed)
    (ht : after.document.Treelike) (hn : moved.Nodup) {x : Handle} (hx : x < page.document.size) :
    after.document.Below page.document.size x ↔
      ∃ r ∈ moved, x ∈ page.document.descendants r := by
  have hexist : ∀ r ∈ moved, r < page.document.size := fun r hr => h.nodes.lt_size ht hr
  rw [h.nodes.below_iff hw.tree hn hexist hx]
  refine exists_congr fun r => and_congr_right fun hr => ?_
  exact (Document.mem_descendants_iff hw.tree (hexist r hr) x).symm

/-- The captured ids are those of nodes at or below a moved one. -/
theorem Gathers.captures_iff (h : page.Gathers moved after) (hw : page.WellFormed)
    (ht : after.document.Treelike) (hn : moved.Nodup) (id : NodeId) :
    page.Captures after page.document.size id ↔ ∃ node, page.bindings.lookup? id = some node ∧
      ∃ r ∈ moved, node ∈ page.document.descendants r :=
  exists_congr fun node => and_congr_right fun hl => h.below_iff hw ht hn (hw.bound id node hl)

/-- The captured ids name nothing afterwards, and all others name what they named. -/
theorem Gathers.lookup_eq (h : page.Gathers moved after)
    (hids : ∀ id, id ∈ ids ↔ page.Captures after page.document.size id) (id : NodeId) :
    after.bindings.lookup? id = if id ∈ ids then none else page.bindings.lookup? id := by
  apply Option.ext
  intro x
  rw [h.lookup]
  split
  · rename_i hid
    obtain ⟨node, hl, hin⟩ := (hids id).mp hid
    constructor
    · rintro ⟨hx, hout⟩
      rw [hl] at hx
      cases hx
      exact absurd hin hout
    · exact nofun
  · rename_i hid
    exact ⟨And.left, fun hx => ⟨hx, fun hb => hid ((hids id).mpr ⟨x, hx, hb⟩)⟩⟩

/-- The captured ids have no registrations afterwards, and all others have those that they had. -/
theorem Gathers.interest_eq (h : page.Gathers moved after)
    (hids : ∀ id, id ∈ ids ↔ page.Captures after page.document.size id) (id : NodeId)
    (name : String) : after.delegation.interest? id name =
      if id ∈ ids then none else page.delegation.interest? id name := by
  split
  · rename_i hid
    exact h.released id ((hids id).mp hid) name
  · rename_i hid
    exact h.kept id (fun hcaptured => hid ((hids id).mpr hcaptured)) name

/-- The other ids keep their places among the ids of their nodes. -/
theorem Gathers.idsOf_eq (h : page.Gathers moved after)
    (hids : ∀ id, id ∈ ids ↔ page.Captures after page.document.size id) {id : NodeId}
    (hid : id ∉ ids) {node : Handle} (hl : page.bindings.lookup? id = some node) :
    after.bindings.idsOf node = page.bindings.idsOf node :=
  h.idsOutside node fun hb => hid ((hids id).mpr ⟨node, hl, hb⟩)

/-- What has been gathered is captured. -/
theorem Gathers.captured (h : page.Gathers moved after)
    (hw : page.WellFormed) (ht : after.document.Treelike) (hd : page.delegation.Counted)
    (hd' : after.delegation.Counted) (hn : moved.Nodup) :
    ∃ released, Captured page moved page.document.size released after := by
  have hexist : ∀ r ∈ moved, r < page.document.size := fun r hr => h.nodes.lt_size ht hr
  obtain ⟨listed, hlisted, -⟩ := h.forgotten
  have hids : ∀ id, id ∈ listed.dedup ↔ page.Captures after page.document.size id :=
    fun id => List.mem_dedup.trans (hlisted id)
  refine ⟨listed.dedup, ?_⟩
  constructor
  case fresh =>
    rw [Bool.eq_false_iff, ne_eq, Document.contains_iff]
    exact Nat.lt_irrefl _
  case kind =>
    rw [Document.kind?_eq, h.nodes.content, if_pos rfl]
    rfl
  case parentless =>
    rw [h.nodes.parent, if_neg fun hm => Nat.lt_irrefl _ (hexist _ hm)]
    exact Document.parent?_of_size_le (Nat.le_refl _)
  case list => exact h.nodes.children_of_nodup hn
  case parent =>
    intro r hr
    rw [h.nodes.parent, if_pos hr]
  case nodes =>
    intro x hx
    have hne : x ≠ page.document.size :=
      Nat.ne_of_lt ((Document.contains_iff page.document x).mp hx)
    refine ⟨?_, fun hm => ?_, h.nodes.children x hne⟩
    · rw [h.nodes.content, if_neg hne]
    · rw [h.nodes.parent, if_neg hm]
  case released => exact fun id => (hids id).trans (h.captures_iff hw ht hn id)
  case lookup => exact h.lookup_eq hids
  case interest => exact h.interest_eq hids
  case nodup => exact List.nodup_dedup listed
  case counts =>
    exact hd.rootCount_add_countOver hd' (List.nodup_dedup listed) (h.interest_eq hids)
  case aliases => exact fun id hid node hl => h.idsOf_eq hids hid hl

end Gathered

/-- A template that is saved from different nodes takes them, in the order in which they were pushed,
into a fresh fragment that stands nowhere. Exactly the ids at or below them are released, with their
registrations. A new name gets the fragment; under a known name the fragment looks like the one
that is there, and the templates stay. -/
theorem saveTemplate_captures_its_operands {start page saved : Page} (hr : start.Reached)
    {batches : List (List Edit)} (hp : page ∈ start.passes batches) {name : String} {count : Nat}
    {tally : Tally} (h : apply (.saveTemplate name count) page = .ok tally saved)
    (hn : (page.document.dissolved
      ((page.operands.slots.take count).map (·.node)).reverse).Nodup) :
    ∃ fragment released,
      Captured page
        (page.document.dissolved ((page.operands.slots.take count).map (·.node)).reverse)
        fragment released saved ∧
      (page.templates.contains name = false →
        saved.templates.canonical name = .ok fragment ∧
        ∀ other, other ≠ name → saved.templates.find other = page.templates.find other) ∧
      (page.templates.contains name = true → saved.templates = page.templates ∧
        ∃ old, page.templates.canonical name = .ok old ∧
          saved.document.structurallyEqual old fragment = true) := by
  have hsupplied := supplied_of_passes hr hp
  have hw := hsupplied.wellFormed
  have hstanding := Document.standing_of_passes hr hp
  have hcounted := counted_of_passes hr hp
  have hcounted' := counted_apply hcounted (.saveTemplate name count)
  have htree := (settles_apply hw (.saveTemplate name count)).wellFormed.tree
  rw [h] at hcounted' htree
  obtain ⟨nodes, operands, doc, fresh, templates, hpop, happend, hregister, rfl⟩ :=
    saveTemplate_ok h
  obtain ⟨moved, hflat, hgathers⟩ := gathers_gathered hw hsupplied.sound hstanding hpop happend
  obtain rfl := Document.eq_dissolved_of_flatten hflat
  rw [← (popMany_ok hpop).1] at hn ⊢
  obtain ⟨released, hcaptured⟩ := hgathers.captured hw htree hcounted hcounted' hn
  refine ⟨page.document.size, released, hcaptured.withTemplates templates, ?_, ?_⟩
  · intro hnew
    rcases Templates.register_ok hregister with ⟨-, -, existing, hknown, -⟩ | ⟨-, -, rfl⟩
    · unfold Templates.contains Keyed.has at hnew
      rw [hknown] at hnew
      cases hnew
    · refine ⟨?_, fun other ho => ?_⟩
      · unfold Templates.canonical Templates.find
        rw [Keyed.get?_set, if_pos rfl]
      · unfold Templates.find
        rw [Keyed.get?_set, if_neg (Ne.symm ho)]
  · intro hknown
    rcases Templates.register_ok hregister with ⟨-, rfl, existing, hentry, hequal⟩ | ⟨-, hnone, -⟩
    · refine ⟨rfl, existing.fragment, ?_, hequal⟩
      unfold Templates.canonical Templates.find
      rw [hentry]
    · unfold Templates.contains Keyed.has at hknown
      rw [hnone] at hknown
      cases hknown

/-- A paragraph with a bold part that has two ids. One of the ids listens for a click twice, and
another node listens for one too. -/
theorem saveTemplate_captures_its_operands_card :
    let start := ofDocument .blank false
    let batches : List (List Edit) := [[.createElement "i" 9, .createElement "p" 1,
      .createElement "b" 2, .appendChildren 1, .assignId [0] 3,
      .newEventListener "click" 2 .null, .newEventListener "click" 2 .null,
      .newEventListener "click" 9 .null]]
    let page := start.afterBatches batches
    ∃ saved fragment ids, apply (.saveTemplate "card" 1) page = .ok .plain saved ∧
      Captured page [5] fragment ids saved ∧ saved.templates.canonical "card" = .ok fragment ∧
      page.bindings.idsOf 6 = [2, 3] ∧ saved.bindings.idsOf 6 = [] ∧
      page.delegation.rootCount "click" = 3 ∧ saved.delegation.rootCount "click" = 1 := by
  intro start batches page
  have hr : start.Reached := .start [] [] false
  have hp : page ∈ start.passes batches := afterBatches_mem_passes start batches
  have hmoved : page.document.dissolved
      ((page.operands.slots.take 1).map (·.node)).reverse = [5] := by decide +kernel
  have hrun : apply (.saveTemplate "card" 1) page =
      .ok .plain (left (apply (.saveTemplate "card" 1) page)) :=
    eq_ok_of_given (by decide +kernel)
  obtain ⟨fragment, ids, hcaptured, hnew, -⟩ :=
    saveTemplate_captures_its_operands hr hp hrun (by rw [hmoved]; decide)
  rw [hmoved] at hcaptured
  exact ⟨_, fragment, ids, hrun, hcaptured, (hnew (by decide +kernel)).1, by decide +kernel,
    by decide +kernel, by decide +kernel, by decide +kernel⟩

end Page

end PageHost
