import Mathlib.Data.List.Chain
import PageHost.Proofs.Markup.Escape
/-!
# Plain trees

A plain tree consists of HTML elements, texts and placeholders, with proper names, and no text
in it is empty or runs on into another one. The markup of a plain tree is found again in any
markup that begins with it: what comes first tells texts, elements, placeholders and end tags
apart, and the content of an element goes on up to the first end tag that is not its own
content's. Namespaces of attributes leave no trace.
-/

namespace PageHost

namespace Tree

mutual

/-- Changes the content of every node. -/
def map (f : Content → Content) : Tree → Tree
  | .node content children => .node (f content) (mapAll f children)

/-- Changes the content of every node of several trees. -/
def mapAll (f : Content → Content) : List Tree → List Tree
  | [] => []
  | t :: rest => map f t :: mapAll f rest

end

/-- Whether a text is at the top. -/
def isText : Tree → Bool
  | .node (.text _) _ => true
  | .node _ _ => false

/-- No two texts stand side by side. -/
def Apart (trees : List Tree) : Prop :=
  trees.IsChain fun s t => ¬ (s.isText = true ∧ t.isText = true)

end Tree

open Markup

/-- What may stand in a plain tree over these children. -/
def Content.PlainOver (content : Content) (children : List Tree) : Prop :=
  match content with
  | .element name attributes =>
    name.space = none ∧ IsName name.tag ∧ (∀ a ∈ attributes, IsName a.name) ∧
      (name.isVoid = true → children = []) ∧ Tree.Apart children
  | .text data => data ≠ "" ∧ children = []
  | .placeholder => children = []
  | .comment _ => False
  | .document => False
  | .fragment => False

namespace Tree

mutual

/-- Every node of the tree may stand in a plain tree. -/
def Plain : Tree → Prop
  | .node content children => content.PlainOver children ∧ PlainAll children

/-- All of the trees are plain. -/
def PlainAll : List Tree → Prop
  | [] => True
  | t :: rest => Plain t ∧ PlainAll rest

end

end Tree

/-- A content without the namespaces of its attributes. -/
def Content.unspaced : Content → Content
  | .element name attributes => .element name (attributes.map fun a => { a with space := none })
  | content => content

namespace Tree

mutual

/-- Namespaces of attributes leave no trace in the markup. -/
theorem ofTree_unspaced : (t : Tree) → ofTree (t.map Content.unspaced) = ofTree t
  | .node content children => by
    have hbelow := ofTrees_unspaced children
    have htext : ∀ attributes : List Attribute,
        (attributes.map fun a => { a with space := none }).flatMap attributeText =
          attributes.flatMap attributeText := by
      intro attributes
      rw [List.flatMap_map]
      rfl
    cases content with
    | element name attributes => simp [map, Content.unspaced, ofTree, startTag, htext, hbelow]
    | _ => simp [map, Content.unspaced, ofTree, hbelow]

theorem ofTrees_unspaced :
    (trees : List Tree) → ofTrees (mapAll Content.unspaced trees) = ofTrees trees
  | [] => rfl
  | t :: rest => by rw [mapAll, ofTrees, ofTrees, ofTree_unspaced t, ofTrees_unspaced rest]

end

end Tree

namespace Markup

/-! ## What comes first -/

/-- What markup begins with. -/
inductive Opening where
  | nothing
  | endTag
  | comment
  | startTag
  | text
deriving DecidableEq

/-- What markup begins with, told from its first two characters. -/
def opening : List Char → Opening
  | [] => .nothing
  | c :: rest =>
    if c = '<' then
      if rest.head? = some '/' then .endTag
      else if rest.head? = some '!' then .comment
      else .startTag
    else .text

/-- The markup of a content is over: nothing follows, or an end tag. -/
def Over (rest : List Char) : Prop := rest = [] ∨ ∃ more, rest = '<' :: '/' :: more

/-- What is over stops a text. -/
theorem Over.stops {rest : List Char} (h : Over rest) : Stops isText rest := by
  rcases h with rfl | ⟨more, rfl⟩
  · exact stops_nil isText
  · exact stops_cons (by decide) _

/-- What is over opens nothing but the end tag of its parent. -/
theorem Over.opening {rest : List Char} (h : Over rest) :
    opening rest = .nothing ∨ opening rest = .endTag := by
  rcases h with rfl | ⟨more, rfl⟩
  · exact .inl rfl
  · exact .inr rfl

/-- An end tag is over. -/
theorem over_endTag (name : ElementName) (rest : List Char) : Over (endTag name ++ rest) :=
  .inr ⟨_, rfl⟩

/-- A start tag opens as one. -/
theorem opening_startTag {name : ElementName} (h : IsName name.tag) (attributes : List Attribute)
    (rest : List Char) : opening (startTag name attributes ++ rest) = .startTag := by
  obtain ⟨c, more, hname, hc⟩ := exists_toList_of_isName h
  have hslash : c ≠ '/' := by
    rintro rfl
    exact absurd hc (by decide)
  have hmark : c ≠ '!' := by
    rintro rfl
    exact absurd hc (by decide)
  rw [startTag_append_eq, hname]
  simp [opening, hslash, hmark]

/-- A text that is not empty opens as one. -/
theorem opening_textOf {data : String} (h : data ≠ "") (rest : List Char) :
    opening (textOf data ++ rest) = .text := by
  cases hdata : textOf data with
  | nil => exact absurd (eq_empty_of_textOf hdata) h
  | cons c more =>
    have hc : isText c = true := isText_of_mem_textOf (by rw [hdata]; exact List.mem_cons_self)
    have hopen : c ≠ '<' := by
      rintro rfl
      exact absurd hc (by decide)
    simp [opening, hopen]

end Markup

namespace Tree

/-- What the markup of a plain tree begins with. -/
def opening : Tree → Opening
  | .node (.element _ _) _ => .startTag
  | .node (.text _) _ => .text
  | .node _ _ => .comment

/-- A plain tree opens as its sort says. -/
theorem opening_ofTree {t : Tree} (h : t.Plain) (rest : List Char) :
    Markup.opening (ofTree t ++ rest) = t.opening := by
  cases t with
  | node content children =>
    obtain ⟨hplain, -⟩ := h
    cases content with
    | element name attributes =>
      have hname : IsName name.tag := hplain.2.1
      rw [ofTree]
      split
      · exact opening_startTag hname attributes rest
      · rw [List.append_assoc, List.append_assoc]
        exact opening_startTag hname attributes _
    | text data => exact opening_textOf hplain.1 rest
    | placeholder => rfl
    | comment | document | fragment => exact hplain.elim

theorem opening_ne (t : Tree) : t.opening ≠ .nothing ∧ t.opening ≠ .endTag := by
  unfold opening
  split <;> decide

/-- Texts are the trees that open as text. -/
theorem opening_eq_text_iff (t : Tree) : t.opening = .text ↔ t.isText = true := by
  unfold opening isText
  split <;> simp

/-- What is not text stops a text. -/
theorem stops_ofTree {t : Tree} (h : t.Plain) (ht : ¬ t.isText = true) (rest : List Char) :
    Stops Markup.isText (ofTree t ++ rest) := by
  have hopening := opening_ofTree h rest
  intro c hc
  rw [← opening_eq_text_iff, ← hopening] at ht
  cases hmarkup : ofTree t ++ rest with
  | nil =>
    rw [hmarkup] at hc
    cases hc
  | cons d more =>
    rw [hmarkup] at hc ht
    cases hc
    by_cases hopen : c = '<'
    · rw [hopen]
      decide
    · simp [Markup.opening, hopen] at ht

/-- What follows a text in a plain list stops it. -/
theorem stops_ofTrees {t : Tree} {rest : List Tree} {more : List Char} (h : PlainAll rest)
    (happart : Apart (t :: rest)) (ht : t.isText = true) (hmore : Over more) :
    Stops Markup.isText (ofTrees rest ++ more) := by
  cases rest with
  | nil => exact hmore.stops
  | cons next later =>
    have hnext : ¬ next.isText = true := fun hn => (List.isChain_cons_cons.mp happart).1 ⟨ht, hn⟩
    rw [ofTrees, List.append_assoc]
    exact stops_ofTree h.1 hnext _

/-- The markup of an element: its start tag, then its content and end tag unless it is void. -/
theorem ofTree_element_append (name : ElementName) (attributes : List Attribute)
    (children : List Tree) (rest : List Char) :
    ofTree (.node (.element name attributes) children) ++ rest =
      startTag name attributes ++
        if name.isVoid then rest else ofTrees children ++ (endTag name ++ rest) := by
  rw [ofTree]
  split
  · rfl
  · rw [List.append_assoc, List.append_assoc]

/-- Where a content is over no plain tree begins. -/
theorem ne_ofTrees_of_over {t : Tree} (ht : t.Plain) (later : List Tree) {rest : List Char}
    (h : Over rest) (more : List Char) : rest ≠ ofTrees (t :: later) ++ more := by
  intro he
  have hopening : Markup.opening rest = t.opening := by
    rw [he, ofTrees, List.append_assoc]
    exact opening_ofTree ht _
  have hover := h.opening
  rw [hopening] at hover
  exact hover.elim t.opening_ne.1 t.opening_ne.2

/-- Attributes that agree in names and values agree but for their namespaces. -/
theorem unspaced_of_pairs {as bs : List Attribute}
    (h : as.map (fun a => (a.name, a.value)) = bs.map (fun b => (b.name, b.value))) :
    as.map (fun a => { a with space := none }) = bs.map fun b => { b with space := none } := by
  have hmap := congrArg (List.map fun pair => Attribute.mk pair.1 none pair.2) h
  rwa [List.map_map, List.map_map] at hmap

/-- The start tag of an element tells its name and its attributes but for their namespaces. -/
theorem element_append {name other : ElementName} {as bs : List Attribute} {cs ds : List Tree}
    (hs : (Content.element name as).PlainOver cs) (ht : (Content.element other bs).PlainOver ds)
    {rest more : List Char} (h : startTag name as ++ rest = startTag other bs ++ more) :
    name = other ∧
      Content.unspaced (.element name as) = Content.unspaced (.element other bs) ∧ rest = more := by
  obtain ⟨hspace, hname, has, -⟩ := hs
  obtain ⟨hspace', hname', hbs, -⟩ := ht
  obtain ⟨htag, hpairs, hrest⟩ := startTag_append hname hname' has hbs h
  have hsame : name = other := by
    rw [ElementName.mk.injEq]
    exact ⟨htag, hspace.trans hspace'.symm⟩
  rw [hsame]
  exact ⟨rfl, by simpa [Content.unspaced] using unspaced_of_pairs hpairs, hrest⟩

/-! ## Plain trees are found again -/

mutual

/-- A plain tree is found again in markup that begins with it, if what follows a text at its top
stops the text. -/
theorem ofTree_append : (s t : Tree) → s.Plain → t.Plain → {rest more : List Char} →
    (s.isText = true → Stops Markup.isText rest) → (t.isText = true → Stops Markup.isText more) →
    ofTree s ++ rest = ofTree t ++ more →
    s.map Content.unspaced = t.map Content.unspaced ∧ rest = more
  | .node a cs, .node b ds, hs, ht, rest, more, hrest, hmore, h => by
    have hopening : (Tree.node a cs).opening = (Tree.node b ds).opening := by
      rw [← opening_ofTree hs rest, h, opening_ofTree ht more]
    obtain ⟨hcontent, hchildren⟩ := hs
    obtain ⟨hcontent', hchildren'⟩ := ht
    cases a with
    | comment | document | fragment => exact hcontent.elim
    | element name as =>
      cases b with
      | comment | document | fragment => exact hcontent'.elim
      | text | placeholder => cases hopening
      | element other bs =>
        rw [ofTree_element_append, ofTree_element_append] at h
        obtain ⟨rfl, hattributes, hbody⟩ := element_append hcontent hcontent' h
        obtain ⟨-, -, -, hvoid, hcs⟩ := hcontent
        obtain ⟨-, -, -, hvoid', hds⟩ := hcontent'
        rw [map, map, hattributes]
        by_cases hv : name.isVoid = true
        · rw [if_pos hv, if_pos hv] at hbody
          rw [hvoid hv, hvoid' hv]
          exact ⟨rfl, hbody⟩
        · rw [if_neg hv, if_neg hv] at hbody
          obtain ⟨hbelow, hend⟩ := ofTrees_append cs ds hchildren hchildren' hcs hds
            (over_endTag name rest) (over_endTag name more) hbody
          rw [hbelow]
          exact ⟨rfl, List.append_cancel_left hend⟩
    | text data =>
      cases b with
      | comment | document | fragment => exact hcontent'.elim
      | element | placeholder => cases hopening
      | text other =>
        obtain ⟨rfl, hrest⟩ := textOf_append (hrest rfl) (hmore rfl) h
        rw [hcontent.2, hcontent'.2]
        exact ⟨rfl, hrest⟩
    | placeholder =>
      cases b with
      | comment | document | fragment => exact hcontent'.elim
      | element | text => cases hopening
      | placeholder =>
        have hnone : cs = [] := hcontent
        have hnone' : ds = [] := hcontent'
        rw [hnone, hnone']
        exact ⟨rfl, List.append_cancel_left h⟩

/-- The same for lists of plain trees, up to where their content is over. -/
theorem ofTrees_append : (ss ts : List Tree) → PlainAll ss → PlainAll ts → Apart ss → Apart ts →
    {rest more : List Char} → Over rest → Over more →
    ofTrees ss ++ rest = ofTrees ts ++ more →
    mapAll Content.unspaced ss = mapAll Content.unspaced ts ∧ rest = more
  | [], [], _, _, _, _, _, _, _, _, h => ⟨rfl, h⟩
  | [], _ :: _, _, ht, _, _, _, _, hrest, _, h => absurd h (ne_ofTrees_of_over ht.1 _ hrest _)
  | _ :: _, [], hs, _, _, _, _, _, _, hmore, h => absurd h.symm (ne_ofTrees_of_over hs.1 _ hmore _)
  | s :: ss, t :: ts, hs, ht, has, hat, rest, more, hrest, hmore, h => by
    rw [ofTrees, ofTrees, List.append_assoc, List.append_assoc] at h
    obtain ⟨hfirst, hlater⟩ := ofTree_append s t hs.1 ht.1
      (fun htext => stops_ofTrees hs.2 has htext hrest)
      (fun htext => stops_ofTrees ht.2 hat htext hmore) h
    obtain ⟨htrees, hend⟩ := ofTrees_append ss ts hs.2 ht.2 has.tail hat.tail hrest hmore hlater
    rw [mapAll, mapAll, hfirst, htrees]
    exact ⟨rfl, hend⟩

end

end Tree

end PageHost
