import PageHost.Proofs.Document.Clone
import PageHost.Proofs.Document.Preorder
import PageHost.Proofs.Page.Insertions
/-!
# Clones and stamps of reachable documents

Every node that exists can be cloned. A stamp is a clone of the fragment of a template, so
the paths that were recorded when the template was registered lead to the placeholders of
the stamp as they lead to those of the fragment, for as long as the tree of the fragment
stays what it was. A single root of a template is cloned in the same way.
-/

namespace PageHost

namespace Templates

/-- The fragment was registered under the name in `doc`, and other fragments may have been
registered after it. -/
inductive Registered (doc : Document) (name : String) (fragment : Handle) : Templates → Prop where
  | now {before after : Templates} : before.register doc name fragment = .ok (true, after) →
      Registered doc name fragment after
  | later {before after : Templates} (there : Document) (other : String) (more : Handle)
      (fresh : Bool) : Registered doc name fragment before →
      before.register there other more = .ok (fresh, after) → Registered doc name fragment after

/-- A fragment that is registered under a new name gets the entry of the name. Under a known name it
has the structure of the one that is there, and nothing changes. -/
theorem register_ok {templates after : Templates} {doc : Document} {name : String}
    {fragment : Handle} {fresh : Bool}
    (h : templates.register doc name fragment = .ok (fresh, after)) :
    (fresh = false ∧ after = templates ∧
      ∃ existing, Keyed.get? templates.entries name = some existing ∧
        doc.structurallyEqual existing.fragment fragment = true) ∨
    (fresh = true ∧ Keyed.get? templates.entries name = none ∧
      after = ⟨Keyed.set templates.entries name ⟨fragment, slotsUnder doc fragment⟩⟩) := by
  unfold register outcome registerInPlace at h
  cases hget : Keyed.get? templates.entries name with
  | some existing =>
    rw [hget] at h
    dsimp only at h
    by_cases hequal : doc.structurallyEqual existing.fragment fragment = true
    · rw [if_pos hequal] at h
      cases h
      exact Or.inl ⟨rfl, rfl, existing, rfl, hequal⟩
    · rw [if_neg hequal] at h
      cases h
  | none =>
    rw [hget] at h
    cases h
    exact Or.inr ⟨rfl, rfl, rfl⟩

/-- The entry of a registered fragment stays. -/
theorem Registered.find {doc : Document} {name : String} {fragment : Handle}
    {templates : Templates} (h : Registered doc name fragment templates) :
    templates.find name = .ok ⟨fragment, slotsUnder doc fragment⟩ := by
  have hentry : Keyed.get? templates.entries name =
      some ⟨fragment, slotsUnder doc fragment⟩ := by
    induction h with
    | now hnow =>
      rcases register_ok hnow with ⟨hfalse, -⟩ | ⟨-, -, rfl⟩
      · cases hfalse
      · rw [Keyed.get?_set, if_pos rfl]
    | later there other more fresh _ hlater ih =>
      rcases register_ok hlater with ⟨-, rfl, -⟩ | ⟨-, hnone, rfl⟩
      · exact ih
      · have hne : other ≠ name := by
          rintro rfl
          rw [hnone] at ih
          cases ih
        rw [Keyed.get?_set, if_neg hne]
        exact ih
  unfold Templates.find
  rw [hentry]

end Templates

namespace Document

/-- Every node of a reachable document can be cloned: into fresh nodes of the same structure that
stand nowhere, and without a change to any node that was there. The walk that copies the store and
the walk that carries the tables over meet at each position, and the old entries stay. -/
theorem deepClone_is_structural_and_detached {doc : Document} (hr : doc.Reachable) {n : Handle}
    (hn : doc.contains n = true) :
    ∃ copy after, deepClone n doc = .ok copy after ∧ Clone doc n copy after := by
  obtain ⟨copy, after, -, hrun, hclone, -⟩ := exists_clone hr.treelike ((contains_iff doc n).mp hn)
  exact ⟨copy, after, hrun, hclone⟩

/-- A card of an element, a comment and a placeholder, which looks the same in the markup as a
comment would. -/
theorem deepClone_is_structural_and_detached_card :
    let doc := afterOperations [.createFragment, .createElement "a" none,
      .setAttribute 5 "href" none "/", .setAttribute 5 "class" none "x", .createText "<here>",
      .createComment "note", .createPlaceholder, .appendChildren 5 [6],
      .appendChildren 4 [5, 7, 8]]
    doc.contains 4 = true ∧ ∃ after, deepClone 4 doc = .ok 9 after ∧ Clone doc 4 9 after ∧
      doc.outerHtml 4 =
        "<a href=\"/\" class=\"x\">&lt;here&gt;</a><!--note--><!--placeholder-->" ∧
      after.descendants 9 = [9, 10, 11, 12, 13] ∧ after.kind? 12 = some .comment ∧
      after.kind? 13 = some .placeholder := by
  intro doc
  have hin : doc.contains 4 = true := by decide +kernel
  have hgiven : given (deepClone 4 doc) = some 9 := by decide +kernel
  obtain ⟨copy, after, hrun, hclone⟩ :=
    deepClone_is_structural_and_detached (reachable_afterOperations _) hin
  have hafter : after = left (deepClone 4 doc) := (congrArg left hrun).symm
  rw [hrun] at hgiven
  cases hgiven
  refine ⟨hin, after, hrun, hclone, by decide +kernel, ?_, ?_, ?_⟩ <;> rw [hafter] <;>
    decide +kernel

/-- `after` is `doc` with a stamp of a template of these recorded paths. -/
structure Stamped (doc : Document) (fragment : Handle) (paths : List (List Nat)) (stamp : Stamp)
    (after : Document) : Prop where
  clone : Clone doc fragment stamp.fragment after
  roots : stamp.roots = after.children stamp.fragment
  /-- The slots are the placeholders of the stamp in document order, each of them once. -/
  slots : stamp.slots = after.placeholders stamp.fragment
  nodup : stamp.slots.Nodup
  /-- Every recorded path leads to a placeholder of the fragment, -/
  originals : paths.map (doc.atPath fragment) = (doc.placeholders fragment).map some
  /-- and in the stamp to the slot of the same position. -/
  copies : paths.map (after.atPath stamp.fragment) = stamp.slots.map some

/-- While the tree of a fragment has the recorded paths, each stamp finds all its placeholders. -/
theorem exists_stamped {doc : Document} (ht : doc.Treelike) {templates : Templates} {name : String}
    {fragment : Handle} {t : Tree} (hfind : templates.find name = .ok ⟨fragment, t.slots⟩)
    (htree : doc.tree? fragment = some t) :
    ∃ stamp after, templates.stamp name doc = .ok stamp after ∧
      Stamped doc fragment t.slots stamp after := by
  have hshows := (shows_iff ht fragment t).mpr htree
  obtain ⟨copy, after, t', hrun, hclone, ht', htree', hcopy⟩ :=
    exists_clone ht (shows_lt_size hshows)
  rw [htree] at htree'
  cases htree'
  have hslots := filterMap_slots ht' hcopy
  refine ⟨_, after, Templates.stamp_of_find hfind hrun, ?_⟩
  constructor
  case clone => exact hclone
  case roots => rfl
  case slots => exact hslots
  case nodup =>
    rw [hslots]
    exact (nodup_descendants ht' (shows_lt_size hcopy)).filter _
  case originals => exact map_slots ht t hshows
  case copies =>
    rw [hslots]
    exact map_slots ht' t hcopy

/-- As long as the tree of a registered fragment stays what it was, each stamp of the template finds
all its placeholders, and exactly the positions of its roots can be stamped alone. -/
theorem stamps_copy_the_template {doc origin : Document} {templates : Templates} {name : String}
    {fragment : Handle} (hr : doc.Reachable)
    (hregistered : templates.Registered origin name fragment)
    (hin : doc.contains fragment = true) (hsame : doc.tree? fragment = origin.tree? fragment) :
    (∃ stamp after, templates.stamp name doc = .ok stamp after ∧
      Stamped doc fragment (Templates.slotsUnder origin fragment) stamp after) ∧
    ∀ index,
      ((∃ top after, templates.stampRoot name index doc = .ok top after) ↔
        index < (doc.children fragment).length) ∧
      ∀ top after, templates.stampRoot name index doc = .ok top after →
        ∃ original, (doc.children fragment)[index]? = some original ∧
          Clone doc original top after ∧ ∀ earlier, doc.contains earlier = true →
            (after.descendants earlier).Disjoint (after.descendants top) := by
  have ht := hr.treelike
  have hfind := hregistered.find
  constructor
  · obtain ⟨t, htree⟩ := tree?_isSome ht ((contains_iff doc fragment).mp hin)
    have hpaths : Templates.slotsUnder origin fragment = t.slots := by
      unfold Templates.slotsUnder
      rw [← hsame, htree]
    rw [hpaths] at hfind ⊢
    exact exists_stamped ht hfind htree
  · intro index
    cases hoccupied : (doc.children fragment)[index]? with
    | none =>
      have hfail := Templates.stampRoot_of_none hfind hoccupied
      have hlength := List.getElem?_eq_none_iff.mp hoccupied
      refine ⟨⟨?_, fun hlt => absurd hlt (Nat.not_lt.mpr hlength)⟩, ?_⟩
      · rintro ⟨top, after, hok⟩
        rw [hfail] at hok
        cases hok
      · intro top after hok
        rw [hfail] at hok
        cases hok
    | some original =>
      have hchild : original ∈ doc.children fragment := List.mem_of_getElem? hoccupied
      obtain ⟨copy, made, -, hrun, hclone, -⟩ := exists_clone ht (ht.child_lt_size hchild)
      have hstamp := Templates.stampRoot_of_some hfind hoccupied hrun
      refine ⟨⟨fun _ => (List.getElem?_eq_some_iff.mp hoccupied).1, fun _ => ⟨_, _, hstamp⟩⟩, ?_⟩
      intro top after hok
      rw [hstamp] at hok
      cases hok
      exact ⟨original, rfl, hclone, fun earlier he => hclone.disjoint ht he⟩

/-- A template with a placeholder inside an element and another one after it. Another template is
registered and a node is made before the stamp. -/
theorem stamps_copy_the_template_nested :
    let origin := afterOperations [.createFragment, .createElement "p" none, .createText "x",
      .createPlaceholder, .createPlaceholder, .appendChildren 5 [6, 7], .appendChildren 4 [5, 8]]
    let doc := (Operation.createFragment).run origin
    ∃ templates : Templates, templates.Registered origin "card" 4 ∧
      Templates.slotsUnder origin 4 = [[0, 1], [1]] ∧ doc.placeholders 4 = [7, 8] ∧
      ∃ stamp after, templates.stamp "card" doc = .ok stamp after ∧
        Stamped doc 4 (Templates.slotsUnder origin 4) stamp after ∧
        stamp = ⟨10, [11, 14], [13, 14]⟩ ∧
        given (templates.stampRoot "card" 1 doc) = some 10 ∧
        ¬ ∃ top after, templates.stampRoot "card" 2 doc = .ok top after := by
  intro origin doc
  let one : Templates := ⟨[("card", ⟨4, Templates.slotsUnder origin 4⟩)]⟩
  let both : Templates :=
    ⟨[("card", ⟨4, Templates.slotsUnder origin 4⟩), ("empty", ⟨9, Templates.slotsUnder doc 9⟩)]⟩
  have hcard : Templates.empty.register origin "card" 4 = .ok (true, one) := by rfl
  have hnow : one.Registered origin "card" 4 := .now hcard
  have hboth : both.Registered origin "card" 4 := .later doc "empty" 9 true hnow (by rfl)
  have horigin : origin.Reachable := reachable_afterOperations _
  have hdoc : doc.Reachable := .run .createFragment horigin
  have hsame : doc.tree? 4 = origin.tree? 4 := by
    apply tree?_eq_of_frame horigin.treelike hdoc.treelike
    · exact fun x hx => (node?_push origin _ x).trans (if_neg (Nat.ne_of_lt hx))
    · exact (contains_iff origin 4).mp (by decide +kernel)
  have hlist : doc.children 4 = [5, 8] := by decide +kernel
  obtain ⟨⟨stamp, after, hrun, hstamped⟩, hroots⟩ :=
    stamps_copy_the_template hdoc hboth (by decide +kernel) hsame
  have hgiven : given (both.stamp "card" doc) = some ⟨10, [11, 14], [13, 14]⟩ := by
    decide +kernel
  rw [hrun] at hgiven
  refine ⟨both, hboth, by decide +kernel, by decide +kernel, stamp, after, hrun, hstamped,
    Option.some.inj hgiven, by decide +kernel, ?_⟩
  rw [(hroots 2).1, hlist]
  decide

end Document

end PageHost
