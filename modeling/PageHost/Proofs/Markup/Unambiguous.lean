import PageHost.Proofs.Markup.Tags
import PageHost.Proofs.Page.Insertions
/-!
# Markup is unambiguous

A node is plain when the tree at it is: HTML elements, texts and placeholders with proper names,
and no text that is empty or runs on into the next. Two plain nodes, of one document or of two,
have the same markup only if the same tree stands at them but for the namespaces of attributes,
and a reader of tags finds in the markup of a plain node what the tree has besides its texts and
values.
-/

namespace PageHost.Document

open Markup

/-- What may stand at a node of a plain tree. -/
def PlainAs (doc : Document) (n : Handle) : Content → Prop
  | .element name attributes =>
    name.space = none ∧ IsName name.tag ∧ (∀ a ∈ attributes, IsName a.name) ∧
      (name.isVoid = true → doc.children n = []) ∧
      (doc.children n).IsChain fun c d => ¬ (doc.kind? c = some .text ∧ doc.kind? d = some .text)
  | .text data => data ≠ ""
  | .placeholder => True
  | .comment _ => False
  | .document => False
  | .fragment => False

instance (doc : Document) (n : Handle) (content : Content) : Decidable (doc.PlainAs n content) :=
  match content with
  | .element _ _ => inferInstanceAs (Decidable (_ ∧ _ ∧ _ ∧ _ ∧ List.IsChain _ _))
  | .text data => inferInstanceAs (Decidable (data ≠ ""))
  | .placeholder => instDecidableTrue
  | .comment _ | .document | .fragment => instDecidableFalse

/-- The node may stand in a plain tree. -/
def PlainAt (doc : Document) (n : Handle) : Prop :=
  ∃ content ∈ doc.content? n, doc.PlainAs n content

instance (doc : Document) (n : Handle) : Decidable (doc.PlainAt n) :=
  inferInstanceAs (Decidable (∃ content ∈ doc.content? n, doc.PlainAs n content))

/-- The tree at a node is plain. -/
def Plain (doc : Document) (top : Handle) : Prop := ∀ n, doc.Below top n → doc.PlainAt n

variable {doc : Document}

/-- The children of a plain node are plain. -/
theorem Plain.child {p c : Handle} (h : doc.Plain p) (hc : c ∈ doc.children p) : doc.Plain c :=
  fun n hn => h n (Below.trans (.child .here hc) hn)

/-- A tree that is not a container stands at a node without children. -/
theorem children_of_plain_leaf (ht : doc.Treelike) {h : Handle} {content : Content}
    (hc : doc.content? h = some content) (hleaf : content.kind.holdsChildren = false) :
    doc.children h = [] := by
  apply List.eq_nil_iff_forall_not_mem.mpr
  intro c hm
  obtain ⟨kind, hk, hholds⟩ := ht.container_of_mem hm
  rw [kind?_eq, hc] at hk
  obtain rfl := Option.some.inj hk
  rw [hleaf] at hholds
  cases hholds

/-- A tree is a text when the node that shows it is one. -/
theorem isText_iff_of_shows {h : Handle} {t : Tree} (hs : doc.Shows h t) :
    t.isText = true ↔ doc.kind? h = some .text := by
  cases t with
  | node content children =>
    rw [kind?_eq, hs.1]
    cases content <;> simp [Tree.isText, Content.kind]

/-- Texts that are not side by side among the nodes are not among the trees. -/
theorem apart_of_showsAll {hs : List Handle} {ts : List Tree} (hshows : doc.ShowsAll hs ts)
    (hapart : hs.IsChain fun c d => ¬ (doc.kind? c = some .text ∧ doc.kind? d = some .text)) :
    Tree.Apart ts := by
  induction ts generalizing hs with
  | nil => exact .nil
  | cons t ts ih =>
    cases hs with
    | nil => exact hshows.elim
    | cons h hs =>
      cases ts with
      | nil => exact .singleton t
      | cons u ts =>
        cases hs with
        | nil => exact hshows.2.elim
        | cons g hs =>
          obtain ⟨hpair, hrest⟩ := List.isChain_cons_cons.mp hapart
          refine List.isChain_cons_cons.mpr ⟨?_, ih hshows.2 hrest⟩
          rw [isText_iff_of_shows hshows.1, isText_iff_of_shows hshows.2.1]
          exact hpair

mutual

/-- A plain tree stands at a plain node. -/
theorem Plain.tree (ht : doc.Treelike) {h : Handle} (hp : doc.Plain h) :
    (t : Tree) → doc.Shows h t → t.Plain
  | .node content children, hs => by
    obtain ⟨hcontent, hbelow⟩ := hs
    have hown := hp h .here
    refine ⟨?_, plainAll_trees ht (fun c hc => hp.child hc) children hbelow⟩
    have hnone : doc.children h = [] → children = [] := by
      intro hnil
      rw [hnil] at hbelow
      cases children with
      | nil => rfl
      | cons t rest => exact hbelow.elim
    obtain ⟨own, hcontent', hown⟩ := hown
    obtain rfl : content = own := Option.some.inj (hcontent.symm.trans hcontent')
    cases content with
    | element name attributes =>
      obtain ⟨hspace, hname, hattributes, hvoid, hapart⟩ := hown
      exact ⟨hspace, hname, hattributes, fun hv => hnone (hvoid hv),
        apart_of_showsAll hbelow hapart⟩
    | text data => exact ⟨hown, hnone (children_of_plain_leaf ht hcontent rfl)⟩
    | placeholder => exact hnone (children_of_plain_leaf ht hcontent rfl)
    | comment | document | fragment => exact hown.elim

/-- Plain nodes show plain trees. -/
theorem plainAll_trees (ht : doc.Treelike) {hs : List Handle} (hp : ∀ h ∈ hs, doc.Plain h) :
    (ts : List Tree) → doc.ShowsAll hs ts → Tree.PlainAll ts
  | [], _ => trivial
  | t :: ts, hshows => by
    cases hs with
    | nil => exact hshows.elim
    | cons h hs =>
      have hlater := plainAll_trees ht (fun g hg => hp g (List.mem_cons_of_mem h hg)) ts hshows.2
      exact ⟨Plain.tree ht (hp h List.mem_cons_self) t hshows.1, hlater⟩

end

/-- A plain tree stands at a plain node, and the markup of the node is that of the tree. -/
theorem Plain.exists_tree (ht : doc.Treelike) {h : Handle} (hp : doc.Plain h) :
    ∃ t, doc.Shows h t ∧ t.Plain ∧ (doc.outerHtml h).toList = ofTree t := by
  obtain ⟨content, hcontent, -⟩ := hp h .here
  have hs : h < doc.size := (lt_size_iff doc h).mpr ⟨content, hcontent⟩
  obtain ⟨t, htree⟩ := tree?_isSome ht hs
  have hshows := (shows_iff ht h t).mpr htree
  refine ⟨t, hshows, hp.tree ht t hshows, ?_⟩
  rw [outerHtml, htree, String.toList_ofList]

/-- A node is plain if every node that the walk from it finds may stand in a plain tree. -/
theorem plain_of_descendants (ht : doc.Treelike) {top : Handle} (hs : top < doc.size)
    (h : ∀ n ∈ doc.descendants top, doc.PlainAt n) : doc.Plain top :=
  fun n hn => h n ((mem_descendants_iff ht hs n).mpr hn)

/-- The markup of plain nodes is unambiguous. Nodes of the same document or of two have the same
markup exactly if the same tree stands at them but for the namespaces of attributes. A reader that
knows only angle brackets and double quotes finds in it the markup of the same tree with empty
texts and values. What is escaped are three characters in texts and a fourth one in values. -/
theorem markup_is_unambiguous {doc other : Document} (hdoc : doc.Reachable)
    (hother : other.Reachable) {a b : Handle} (ha : doc.Plain a) (hb : other.Plain b) :
    (∃ s t, doc.Shows a s ∧ other.Shows b t ∧
      (doc.outerHtml a = other.outerHtml b ↔
        s.map Content.unspaced = t.map Content.unspaced) ∧
      tags .between (doc.outerHtml a).toList = ofTree (s.map Content.blanked) ∧
      tags .between (other.outerHtml b).toList = ofTree (t.map Content.blanked)) ∧
    ∀ c, (escapeText c = [c] ↔ c ∉ ['&', '<', '>']) ∧
      (escapeValue c = [c] ↔ c ∉ ['&', '<', '>', '"']) := by
  obtain ⟨s, hs, hsplain, hsmarkup⟩ := ha.exists_tree hdoc.treelike
  obtain ⟨t, ht, htplain, htmarkup⟩ := hb.exists_tree hother.treelike
  have hread : ∀ u : Tree, u.Plain →
      tags .between (ofTree u) = ofTree (u.map Content.blanked) := by
    intro u hu
    simpa [tags] using u.tags_ofTree hu []
  have hsame : doc.outerHtml a = other.outerHtml b ↔
      s.map Content.unspaced = t.map Content.unspaced := by
    rw [← String.toList_inj, hsmarkup, htmarkup]
    constructor
    · intro hmarkup
      have hwhole : ofTree s ++ [] = ofTree t ++ [] := by rw [hmarkup]
      exact (s.ofTree_append t hsplain htplain (fun _ => stops_nil _) (fun _ => stops_nil _)
        hwhole).1
    · intro htrees
      rw [← s.ofTree_unspaced, htrees, t.ofTree_unspaced]
  refine ⟨⟨s, t, hs, ht, hsame, ?_, ?_⟩, fun c =>
    ⟨escapeText_eq_self_iff c, escapeValue_eq_self_iff c⟩⟩
  · rw [hsmarkup]
    exact hread s hsplain
  · rw [htmarkup]
    exact hread t htplain

/-- A paragraph that is built in two documents in different order, its title once with a namespace
and once without. Its text and its title have all that is escaped. -/
theorem markup_is_unambiguous_paragraph :
    let doc := afterOperations [.createElement "p" none, .setAttribute 4 "title" none "<\"&\">",
      .createText "1 < 2 & 3", .createElement "br" none, .createPlaceholder,
      .appendChildren 4 [5, 6, 7]]
    let other := afterOperations [.createPlaceholder, .createText "1 < 2 & 3",
      .createElement "br" none, .createElement "p" none,
      .setAttribute 7 "title" (some "urn:note") "<\"&\">", .appendChildren 7 [5, 6, 4]]
    doc.Plain 4 ∧ other.Plain 7 ∧ doc.attributes 4 ≠ other.attributes 7 ∧
      doc.outerHtml 4 = other.outerHtml 7 ∧
      ∃ s t, doc.Shows 4 s ∧ other.Shows 7 t ∧
        s.map Content.unspaced = t.map Content.unspaced := by
  intro doc other
  have hdoc : doc.Reachable := reachable_afterOperations _
  have hother : other.Reachable := reachable_afterOperations _
  have ha : doc.Plain 4 := plain_of_descendants hdoc.treelike
    ((contains_iff doc 4).mp (by decide +kernel)) (by decide +kernel)
  have hb : other.Plain 7 := plain_of_descendants hother.treelike
    ((contains_iff other 7).mp (by decide +kernel)) (by decide +kernel)
  have hmarkup : doc.outerHtml 4 = other.outerHtml 7 := by decide +kernel
  obtain ⟨⟨s, t, hs, ht, hsame, -⟩, -⟩ := markup_is_unambiguous hdoc hother ha hb
  exact ⟨ha, hb, by decide +kernel, hmarkup, s, t, hs, ht, hsame.mp hmarkup⟩

end PageHost.Document
