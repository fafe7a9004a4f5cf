import PageHost.Proofs.Document.Outline
import PageHost.Proofs.Page.Copies
/-!
# Registrations of templates

Fragments are registered one after the other, each in the document as it is at that time.
The first fragment under a name is the one that stays; what comes later under the name is
compared with it and changes nothing. As long as the outline of that first fragment stays
what it was, a later fragment is accepted exactly if it has that outline.
-/

namespace PageHost

namespace Templates

/-- A fragment that is to be registered under a name, in the document as it is then. -/
structure Registration where
  document : Document
  name : String
  fragment : Handle

/-- What a fragment is registered as. -/
def Registration.template (r : Registration) : Template :=
  ⟨r.fragment, slotsUnder r.document r.fragment⟩

/-- Registers a fragment: whether its name was new, or why it is refused, and the templates that
there are then. -/
def enrol (templates : Templates) (r : Registration) : Except EditError Bool × Templates :=
  match registerInPlace r.document r.name r.fragment templates with
  | .ok fresh after => (.ok fresh, after)
  | .error e after => (.error e, after)

/-- Registers fragments one after the other. -/
def enrolAll (templates : Templates) (rs : List Registration) : Templates :=
  rs.foldl (fun templates r => (templates.enrol r).2) templates

variable {templates : Templates}

/-- A registration under a new name is entered. -/
theorem enrol_of_none {r : Registration} (h : Keyed.get? templates.entries r.name = none) :
    templates.enrol r = (.ok true, ⟨Keyed.set templates.entries r.name r.template⟩) := by
  unfold enrol registerInPlace
  rw [h]
  rfl

/-- Under a known name the structure of the fragment decides, and nothing changes. -/
theorem enrol_of_some {r : Registration} {existing : Template}
    (h : Keyed.get? templates.entries r.name = some existing) :
    templates.enrol r =
      (if r.document.structurallyEqual existing.fragment r.fragment then .ok false
        else .error (.templateRedefinition r.name), templates) := by
  unfold enrol registerInPlace
  rw [h]
  dsimp only
  by_cases he : r.document.structurallyEqual existing.fragment r.fragment = true
  · rw [if_pos he, if_pos he]
  · rw [if_neg he, if_neg he]

/-- A registration adds its template where there is none of the name. -/
theorem get?_enrol (templates : Templates) (r : Registration) (name : String) :
    Keyed.get? (templates.enrol r).2.entries name =
      (Keyed.get? templates.entries name).or
        (if r.name = name then some r.template else none) := by
  cases hknown : Keyed.get? templates.entries r.name with
  | none =>
    rw [enrol_of_none hknown, Keyed.get?_set]
    by_cases he : r.name = name
    · rw [← he, hknown, if_pos rfl, Option.none_or]
    · rw [if_neg he, if_neg he, Option.or_none]
  | some existing =>
    rw [enrol_of_some hknown]
    by_cases he : r.name = name
    · rw [← he, hknown, Option.some_or]
    · rw [if_neg he, Option.or_none]

/-- After any registrations a name has the template that it had, or else that of its first one. -/
theorem get?_enrolAll (templates : Templates) (rs : List Registration) (name : String) :
    Keyed.get? (templates.enrolAll rs).entries name =
      (Keyed.get? templates.entries name).or
        ((rs.find? fun r => decide (r.name = name)).map Registration.template) := by
  induction rs generalizing templates with
  | nil => exact Option.or_none.symm
  | cons r rest ih =>
    rw [enrolAll, List.foldl_cons, ← enrolAll, ih, get?_enrol, Option.or_assoc]
    congr 1
    by_cases he : r.name = name
    · rw [if_pos he, List.find?_cons, decide_eq_true he, Option.some_or]
      rfl
    · rw [if_neg he, List.find?_cons, decide_eq_false he, Option.none_or]

/-- The first fragment under a name is the one that is found there. -/
theorem get?_enrolAll_of_first {before between : List Registration} {first : Registration}
    (hfirst : ∀ r ∈ before, r.name ≠ first.name) :
    Keyed.get? (empty.enrolAll (before ++ first :: between)).entries first.name =
      some first.template := by
  have hnone : before.find? (fun r => decide (r.name = first.name)) = none := by
    rw [List.find?_eq_none]
    exact fun r hr => by simpa using hfirst r hr
  rw [get?_enrolAll, List.find?_append, hnone, List.find?_cons, decide_eq_true rfl]
  rfl

end Templates

open Templates Document

/-- Nodes are structurally equal exactly if both exist and have the same outline, which makes
structural equality an equivalence of the nodes that exist. However fragments are registered, the
first one under a name is accepted as new and stays. While its outline stays what it was, a later
fragment under the name is accepted exactly if it has the same outline, is refused as a
redefinition otherwise, and changes nothing. -/
theorem outlines_decide_equality_and_registration :
    (∀ doc : Document, doc.Reachable →
      (∀ a b, doc.structurallyEqual a b = true ↔
        doc.contains a = true ∧ doc.contains b = true ∧
          ∃ o, doc.Outlines a o ∧ doc.Outlines b o) ∧
      Equivalence fun a b : { h // doc.contains h = true } =>
        doc.structurallyEqual a b = true) ∧
    ∀ (before between : List Registration) (first again : Registration),
      (∀ r ∈ before, r.name ≠ first.name) → again.name = first.name →
      again.document.Reachable →
      (∀ o, again.document.Outlines first.fragment o ↔
        first.document.Outlines first.fragment o) →
      ((empty.enrolAll before).enrol first).1 = .ok true ∧
      ∃ templates, empty.enrolAll (before ++ first :: between) = templates ∧
        templates.canonical first.name = .ok first.fragment ∧
        (templates.enrol again).2 = templates ∧
        ((templates.enrol again).1 = .ok false ↔
          ∃ o, first.document.Outlines first.fragment o ∧
            again.document.Outlines again.fragment o) ∧
        ((templates.enrol again).1 = .error (.templateRedefinition first.name) ↔
          ¬ ∃ o, first.document.Outlines first.fragment o ∧
            again.document.Outlines again.fragment o) := by
  constructor
  · intro doc hr
    have ht := hr.treelike
    refine ⟨fun a b => ?_, equivalence_structurallyEqual ht⟩
    rw [structurallyEqual_iff ht, ← exists_outlines_iff ht, ← exists_outlines_iff ht]
    exact ⟨fun ⟨o, ha, hb⟩ => ⟨⟨o, ha⟩, ⟨o, hb⟩, o, ha, hb⟩, fun h => h.2.2⟩
  · intro before between first again hfirst hname hr hsame
    have hnone : Keyed.get? (empty.enrolAll before).entries first.name = none := by
      rw [get?_enrolAll, List.find?_eq_none.mpr fun r hr => by simpa using hfirst r hr]
      rfl
    have hfound : Keyed.get? (empty.enrolAll (before ++ first :: between)).entries first.name =
        some first.template := get?_enrolAll_of_first hfirst
    generalize empty.enrolAll (before ++ first :: between) = templates at hfound
    have hcanonical : templates.canonical first.name = .ok first.fragment := by
      unfold canonical Templates.find
      rw [hfound]
      rfl
    have henrol : templates.enrol again =
        (if again.document.structurallyEqual first.fragment again.fragment then .ok false
          else .error (.templateRedefinition first.name), templates) := by
      rw [← hname] at hfound ⊢
      exact enrol_of_some hfound
    have hequal : again.document.structurallyEqual first.fragment again.fragment = true ↔
        ∃ o, first.document.Outlines first.fragment o ∧
          again.document.Outlines again.fragment o := by
      rw [structurallyEqual_iff hr.treelike]
      simp only [hsame]
    refine ⟨by rw [enrol_of_none hnone], templates, rfl, hcanonical, by rw [henrol], ?_⟩
    rw [henrol, ← hequal]
    dsimp only
    by_cases he : again.document.structurallyEqual first.fragment again.fragment = true
    · rw [if_pos he]
      simp [he]
    · rw [if_neg he]
      simp [he]

/-- Two cards with a link each, whose attributes were set in different order, and an empty card. The
second card is accepted under the name of the first one, the empty card is refused twice. -/
theorem outlines_decide_equality_and_registration_card :
    let doc := afterOperations [.createFragment, .createElement "a" none,
      .setAttribute 5 "href" none "/", .setAttribute 5 "class" none "x", .appendChildren 4 [5],
      .createFragment, .createElement "a" none, .setAttribute 7 "class" none "x",
      .setAttribute 7 "href" none "/", .appendChildren 6 [7], .createFragment]
    let later := (Operation.createText "t").run doc
    later.Reachable ∧ doc.attributes 5 ≠ doc.attributes 7 ∧
      (∀ o, later.Outlines 4 o ↔ doc.Outlines 4 o) ∧
      ∃ templates,
        empty.enrolAll ([⟨doc, "empty", 8⟩] ++ ⟨doc, "card", 4⟩ :: [⟨doc, "card", 8⟩]) =
          templates ∧
        templates.canonical "card" = .ok 4 ∧
        templates.enrol ⟨later, "card", 6⟩ = (.ok false, templates) ∧
        templates.enrol ⟨later, "card", 8⟩ =
          (.error (.templateRedefinition "card"), templates) := by
  intro doc later
  have hdoc : doc.Reachable := reachable_afterOperations _
  have hlater : later.Reachable := .run (.createText "t") hdoc
  have hsame : ∀ o, later.Outlines 4 o ↔ doc.Outlines 4 o := by
    have htree : later.tree? 4 = doc.tree? 4 := by
      apply tree?_eq_of_frame hdoc.treelike hlater.treelike
      · exact fun x hx => (node?_push doc _ x).trans (if_neg (Nat.ne_of_lt hx))
      · exact (contains_iff doc 4).mp (by decide +kernel)
    intro o
    rw [outlines_iff hlater.treelike, outlines_iff hdoc.treelike, htree]
  obtain ⟨hequality, hregistration⟩ := outlines_decide_equality_and_registration
  have hequal := (hequality later hlater).1
  obtain ⟨o, ho, hcopy⟩ : ∃ o, later.Outlines 4 o ∧ later.Outlines 6 o := by
    have hcard : later.content? 4 = some .fragment ∧ later.children 4 = [5] := by decide +kernel
    have hcopy : later.content? 6 = some .fragment ∧ later.children 6 = [7] := by decide +kernel
    have hlink : later.content? 5 = some (.element ⟨"a", none⟩ (doc.attributes 5)) ∧
        later.children 5 = [] := by decide +kernel
    have hlink' : later.content? 7 = some (.element ⟨"a", none⟩ (doc.attributes 7)) ∧
        later.children 7 = [] := by decide +kernel
    have horder : (doc.attributes 7 : Multiset Attribute) = doc.attributes 5 :=
      Multiset.coe_eq_coe.mpr (by decide +kernel)
    refine ⟨.node .fragment [.node (.element ⟨"a", none⟩ (doc.attributes 5)) []], ?_, ?_⟩
    · simp only [Outlines, OutlinesAll, hcard, hlink, Option.map_some, Content.label, and_self]
    · simp only [Outlines, OutlinesAll, hcopy, hlink', horder, Option.map_some, Content.label,
        and_self]
  have hempty : later.structurallyEqual 4 8 ≠ true := by decide +kernel
  obtain ⟨-, _, rfl, hcanonical, hkept, hagain, -⟩ := hregistration [⟨doc, "empty", 8⟩]
    [⟨doc, "card", 8⟩] ⟨doc, "card", 4⟩ ⟨later, "card", 6⟩ (by simp) rfl hlater hsame
  obtain ⟨-, _, rfl, -, hkept', -, hrefused⟩ := hregistration [⟨doc, "empty", 8⟩]
    [⟨doc, "card", 8⟩] ⟨doc, "card", 4⟩ ⟨later, "card", 8⟩ (by simp) rfl hlater hsame
  refine ⟨hlater, by decide +kernel, hsame, _, rfl, hcanonical, Prod.ext ?_ hkept,
    Prod.ext ?_ hkept'⟩
  · exact hagain.mpr ⟨o, (hsame o).mp ho, hcopy⟩
  · rw [hrefused]
    rintro ⟨o', ho', hcopy'⟩
    refine hempty ((hequal 4 8).mpr ?_)
    exact ⟨by decide +kernel, by decide +kernel, o', (hsame o').mpr ho', hcopy'⟩

end PageHost
