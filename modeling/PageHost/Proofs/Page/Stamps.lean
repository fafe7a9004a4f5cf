import PageHost.Proofs.Document.Isolation
import PageHost.Proofs.Page.Presence
/-!
# Templates and their stamps

The fragment of a template and the copies that are stamped from it are the tops of trees
of their own. So what is done to one of them, through its nodes or by putting it somewhere,
is seen in none of the others.
-/

namespace PageHost

namespace Templates

/-- Stamps a template several times in a row. -/
def stamps (templates : Templates) (name : String) : Nat → EStateM EditError Document (List Stamp)
  | 0 => pure []
  | count + 1 => do
    let first ← templates.stamp name
    let rest ← templates.stamps name count
    return first :: rest

section Known

variable {templates : Templates} {name : String} {template : Template} {doc : Document}

/-- A stamp of a known name is a copy of the fragment with its children and the nodes that the
recorded paths lead to. -/
theorem stamp_of_find (hfind : templates.find name = .ok template) {copy : Handle}
    {after : Document} (hrun : Document.deepClone template.fragment doc = .ok copy after) :
    templates.stamp name doc = .ok ⟨copy, after.children copy,
      template.slots.filterMap (after.atPath copy)⟩ after := by
  unfold stamp copyNode
  rw [hfind]
  dsimp only
  rw [hrun]

/-- A root that the template does not have is refused. -/
theorem stampRoot_of_none (hfind : templates.find name = .ok template) {index : Nat}
    (h : (doc.children template.fragment)[index]? = none) :
    templates.stampRoot name index doc = .error (.templateRootOutOfRange name index) doc := by
  unfold stampRoot
  rw [hfind]
  dsimp only
  rw [h]

/-- A root that the template has is copied. -/
theorem stampRoot_of_some (hfind : templates.find name = .ok template) {index : Nat}
    {original copy : Handle} {after : Document}
    (h : (doc.children template.fragment)[index]? = some original)
    (hrun : Document.deepClone original doc = .ok copy after) :
    templates.stampRoot name index doc = .ok copy after := by
  unfold stampRoot copyNode
  rw [hfind]
  dsimp only
  rw [h]
  dsimp only
  rw [hrun]

end Known

end Templates

namespace Document

/-- Different nodes that stand nowhere and have equal trees. -/
structure Copies (doc : Document) (tree : Tree) (tops : List Handle) : Prop where
  nodup : tops.Nodup
  parentless : ∀ top ∈ tops, doc.parent? top = none
  tree? : ∀ top ∈ tops, doc.tree? top = some tree

variable {doc : Document} {tree : Tree} {tops : List Handle}

/-- One more copy is another node, and leaves those that are there as they are. -/
theorem Copies.deepClone (h : doc.Copies tree tops) (ht : doc.Treelike) {original copy : Handle}
    {after : Document} (horiginal : doc.tree? original = some tree)
    (hclone : Document.deepClone original doc = .ok copy after) :
    after.Treelike ∧ after.Copies tree (tops ++ [copy]) := by
  have hplanted := planted_deepClone ht hclone
  obtain ⟨hfresh, -, hparent⟩ := hplanted.fresh _ (List.mem_singleton_self _)
  have hold : ∀ top ∈ tops, top < doc.size := fun top hm => lt_size_of_tree? ht (h.tree? top hm)
  refine ⟨hplanted.treelike, ?_, ?_, ?_⟩
  · rw [List.nodup_append]
    refine ⟨h.nodup, List.nodup_singleton _, fun top hm last hc => ?_⟩
    rw [List.mem_singleton.mp hc]
    exact Nat.ne_of_lt (Nat.lt_of_lt_of_le (hold top hm) hfresh)
  · intro top hm
    rcases List.mem_append.mp hm with hm | hm
    · exact (parent?_of_node?_eq (hplanted.frame top (hold top hm))).trans (h.parentless top hm)
    · rw [List.mem_singleton.mp hm]
      exact hparent
  · intro top hm
    rw [← shows_iff hplanted.treelike]
    rcases List.mem_append.mp hm with hm | hm
    · exact ((shows_iff ht top tree).mpr (h.tree? top hm)).of_frame hplanted.frame
    · rw [List.mem_singleton.mp hm]
      exact shows_deepClone ht hclone horiginal

/-- A template can be stamped as often as one likes, each time into a copy of its own. -/
theorem Copies.exists_stamps {templates : Templates} {name : String} {template : Template}
    (hfind : templates.find name = .ok template) (h : doc.Copies tree tops) (ht : doc.Treelike)
    (hm : template.fragment ∈ tops) (count : Nat) :
    ∃ made after, templates.stamps name count doc = .ok made after ∧ made.length = count ∧
      after.Treelike ∧ after.Copies tree (tops ++ made.map (·.fragment)) := by
  induction count generalizing doc tops with
  | zero =>
    refine ⟨[], doc, rfl, rfl, ht, ?_⟩
    rw [List.map_nil, List.append_nil]
    exact h
  | succ count ih =>
    have htree := h.tree? template.fragment hm
    obtain ⟨copy, stamped, hclone⟩ := exists_deepClone ht (lt_size_of_tree? ht htree)
    obtain ⟨first, hfirst, hstamp⟩ : ∃ first : Stamp, first.fragment = copy ∧
        templates.stamp name doc = .ok first stamped :=
      ⟨_, rfl, Templates.stamp_of_find hfind hclone⟩
    obtain ⟨ht', hcopies⟩ := h.deepClone ht htree hclone
    obtain ⟨made, after, hmade, hlength, htree', hall⟩ :=
      ih hcopies ht' (List.mem_append_left _ hm)
    refine ⟨first :: made, after, ?_, ?_, htree', ?_⟩
    · unfold Templates.stamps
      rw [run_bind_of_ok hstamp, run_bind_of_ok hmade]
      rfl
    · rw [List.length_cons, hlength]
    · rw [List.map_cons, hfirst, List.append_cons]
      exact hall

/-- The documents that operations build and those of the pages that batches pass. -/
inductive Reachable : Document → Prop where
  | blank : Reachable blank
  | run {doc : Document} (operation : Operation) : Reachable doc → Reachable (operation.run doc)
  | page {start page : Page} (batches : List (List Edit)) :
      start.Reached → page ∈ start.passes batches → Reachable page.document

/-- A document that can be reached is treelike. -/
theorem Reachable.treelike {doc : Document} (h : doc.Reachable) :
    doc.Treelike := by
  induction h with
  | blank => exact treelike_blank
  | run operation _ ih => exact treelike_run ih operation
  | page batches hr hp => exact (Page.supplied_of_passes hr hp).wellFormed.tree

end Document

namespace Page

open Document

/-- Subtrees are isolated from each other. A run of operations that writes only to nodes outside
the tree of a node without a parent, each time an operation is carried out, leaves that tree as it
is. In particular the fragment of a template and its stamps are separate trees of equal shape, and
whatever is done to one of them through its own nodes and through nodes outside another one leaves
the other one as it is. -/
theorem subtrees_are_isolated :
    (∀ doc : Document, doc.Reachable → ∀ top, doc.contains top = true → doc.parent? top = none →
      ∀ operations, doc.Along (fun now x => ¬ now.Inside top x) operations →
        SameTree top doc (operations.foldl Operation.run doc)) ∧
    (∀ start : Page, start.Reached → ∀ batches, ∀ page ∈ start.passes batches,
      ∀ name fragment, page.templates.canonical name = .ok fragment → ∀ count,
        ∃ tree made doc, page.document.tree? fragment = some tree ∧
          page.templates.stamps name count page.document = .ok made doc ∧ made.length = count ∧
          doc.Copies tree (fragment :: made.map (·.fragment)) ∧
          ∀ mine ∈ fragment :: made.map (·.fragment),
            ∀ other ∈ fragment :: made.map (·.fragment), mine ≠ other →
              ∀ operations,
                doc.Along (fun now x => doc.Inside mine x ∨ ¬ now.Inside other x) operations →
                SameTree other doc (operations.foldl Operation.run doc)) := by
  constructor
  · intro doc hr top hc hp operations hall
    have hs := (contains_iff doc top).mp hc
    have hnone : ∀ x, False → ¬ doc.Inside top x := fun _ => False.elim
    exact sameTree_foldl_run hr.treelike hs hp hnone (hall.mono fun _ _ => Or.inr)
  · intro start hr batches page hp name fragment hcanonical count
    have hsupplied := supplied_of_passes hr hp
    have ht := hsupplied.wellFormed.tree
    obtain ⟨template, hentry, rfl⟩ := exists_template hcanonical
    have hkind := hsupplied.stocked name template hentry
    obtain ⟨tree, htree⟩ := tree?_isSome ht (lt_size_of_kind? hkind)
    have hone : page.document.Copies tree [template.fragment] := by
      refine ⟨List.nodup_singleton _, ?_, ?_⟩
      · intro top hm
        rw [List.mem_singleton.mp hm]
        exact ht.parent?_of_fragment hkind
      · intro top hm
        rw [List.mem_singleton.mp hm]
        exact htree
    have hfind : page.templates.find name = .ok template := by
      unfold Templates.find
      rw [hentry]
    obtain ⟨made, doc, hmade, hlength, ht', hcopies⟩ :=
      hone.exists_stamps hfind ht (List.mem_singleton_self _) count
    refine ⟨tree, made, doc, htree, hmade, hlength, hcopies, ?_⟩
    intro mine hmine other hother hne operations hall
    have hs := lt_size_of_tree? ht' (hcopies.tree? other hother)
    have hp' := hcopies.parentless other hother
    refine sameTree_foldl_run ht' hs hp' (fun x hin => ?_) hall
    exact ht'.not_inside_both (hcopies.parentless mine hmine) hp' hne hin

/-- A card with an `input` is stamped twice. The first stamp becomes a file field and goes onto the
page, where it gets a button and a label, and is wiped out with all that is there. The other stamp
and the card itself are untouched. -/
theorem subtrees_are_isolated_card :
    let start := ofDocument .blank true
    let batches : List (List Edit) := [[.createElement "input" 1, .saveTemplate "card" 1]]
    let page := start.afterBatches batches
    let stamped := left (page.templates.stamps "card" 2 page.document)
    let operations : List Operation :=
      [.setAttribute 7 "type" none "file", .appendChildren body [6], .setText body "gone"]
    page.templates.canonical "card" = .ok 5 ∧
      stamped.Along (fun now x => stamped.Inside 6 x ∨ ¬ now.Inside 8 x) operations ∧
      (operations.foldl Operation.run stamped).size = 15 ∧
      SameTree 8 stamped (operations.foldl Operation.run stamped) ∧
      SameTree 5 stamped (operations.foldl Operation.run stamped) := by
  intro start batches page stamped operations
  have hr : start.Reached := .start [] [] true
  have hm : page ∈ start.passes batches := afterBatches_mem_passes start batches
  have hcanonical : page.templates.canonical "card" = .ok 5 := by decide +kernel
  have hgiven : given (page.templates.stamps "card" 2 page.document) =
      some [⟨6, [7], []⟩, ⟨8, [9], []⟩] := by decide +kernel
  obtain ⟨tree, made, doc, -, hmade, -, -, hisolated⟩ :=
    subtrees_are_isolated.2 start hr batches page hm "card" 5 hcanonical 2
  have hdoc : stamped = doc := congrArg left hmade
  rw [hmade] at hgiven
  cases hgiven
  rw [← hdoc] at hisolated
  have hother : stamped.Along (fun now x => stamped.Inside 6 x ∨ ¬ now.Inside 8 x) operations := by
    decide +kernel
  have hcard : stamped.Along (fun now x => stamped.Inside 6 x ∨ ¬ now.Inside 5 x) operations := by
    decide +kernel
  refine ⟨hcanonical, hother, by decide +kernel, ?_, ?_⟩
  · exact hisolated 6 (by decide) 8 (by decide) (by decide) operations hother
  · exact hisolated 6 (by decide) 5 (by decide) (by decide) operations hcard

end Page

end PageHost
