import PageHost.Proofs.Markup.Plain
/-!
# What a reader of tags finds

A reader that knows nothing but the two angle brackets and the double quote can follow the
markup of a plain tree: it is between tags, in a tag, or in a quoted value. It passes over what
is between tags and in values, and keeps the rest. What it keeps is the markup of the same tree
with all texts and values empty, so neither a text nor a value is ever taken for markup, and
none changes how what stands around it is read.
-/

namespace PageHost

namespace Markup

/-- Where a reader of tags is. -/
inductive Place where
  | between
  | tag
  | value
deriving DecidableEq

/-- Where the reader is after a character. -/
def Place.next : Place → Char → Place
  | .between, c => if c = '<' then .tag else .between
  | .tag, c => if c = '>' then .between else if c = '"' then .value else .tag
  | .value, c => if c = '"' then .tag else .value

/-- Whether the reader keeps a character. -/
def Place.keeps : Place → Char → Bool
  | .between, c => c = '<'
  | .tag, _ => true
  | .value, c => c = '"'

/-- What the reader keeps. -/
def tags : Place → List Char → List Char
  | _, [] => []
  | place, c :: rest =>
    if place.keeps c then c :: tags (place.next c) rest else tags (place.next c) rest

variable (rest : List Char)

/-- An angle bracket between tags opens one. -/
@[simp] theorem tags_open : tags .between ('<' :: rest) = '<' :: tags .tag rest := rfl

@[simp] theorem tags_close : tags .tag ('>' :: rest) = '>' :: tags .between rest := rfl

@[simp] theorem tags_quote : tags .tag ('"' :: rest) = '"' :: tags .value rest := rfl

@[simp] theorem tags_unquote : tags .value ('"' :: rest) = '"' :: tags .tag rest := rfl

/-- Characters that are kept and lead nowhere else. -/
theorem tags_kept {place : Place} {run : List Char}
    (h : ∀ c ∈ run, place.keeps c = true ∧ place.next c = place) :
    tags place (run ++ rest) = run ++ tags place rest := by
  induction run with
  | nil => rfl
  | cons c run ih =>
    obtain ⟨hkeeps, hnext⟩ := h c List.mem_cons_self
    have hrun := ih fun d hd => h d (List.mem_cons_of_mem c hd)
    rw [List.cons_append, tags, if_pos hkeeps, hnext, hrun, List.cons_append]

/-- Characters that are passed over and lead nowhere else. -/
theorem tags_passed {place : Place} {run : List Char}
    (h : ∀ c ∈ run, place.keeps c = false ∧ place.next c = place) :
    tags place (run ++ rest) = tags place rest := by
  induction run with
  | nil => rfl
  | cons c run ih =>
    obtain ⟨hkeeps, hnext⟩ := h c List.mem_cons_self
    have hrun := ih fun d hd => h d (List.mem_cons_of_mem c hd)
    rw [List.cons_append, tags, hkeeps, hnext, hrun]
    rfl

/-- A text is passed over. -/
theorem tags_textOf (data : String) : tags .between (textOf data ++ rest) = tags .between rest := by
  refine tags_passed rest fun c hc => ?_
  have htext : isText c = true := isText_of_mem_textOf hc
  have hopen : c ≠ '<' := by
    rintro rfl
    exact absurd htext (by decide)
  simp [Place.keeps, Place.next, hopen]

/-- A value is passed over. -/
theorem tags_valueOf (data : String) : tags .value (valueOf data ++ rest) = tags .value rest := by
  refine tags_passed rest fun c hc => ?_
  have hvalue : isValue c = true := isValue_of_mem_valueOf hc
  have hquote : c ≠ '"' := by
    rintro rfl
    exact absurd hvalue (by decide)
  simp [Place.keeps, Place.next, hquote]

/-- A name is kept as it is. -/
theorem tags_name {name : String} (h : IsName name) :
    tags .tag (name.toList ++ rest) = name.toList ++ tags .tag rest := by
  refine tags_kept rest fun c hc => ?_
  have hname : isNameCharacter c = true := h.2 c hc
  have hclose : c ≠ '>' := by
    rintro rfl
    exact absurd hname (by decide)
  have hquote : c ≠ '"' := by
    rintro rfl
    exact absurd hname (by decide)
  simp [Place.keeps, Place.next, hclose, hquote]

/-- An attribute is kept with an empty value. -/
theorem tags_attributeText {a : Attribute} (h : IsName a.name) :
    tags .tag (attributeText a ++ rest) =
      attributeText { a with value := "" } ++ tags .tag rest := by
  have hblank : tags .tag (' ' :: (a.name.toList ++ '=' :: '"' :: (valueOf a.value ++ '"' :: rest)))
      = ' ' :: tags .tag (a.name.toList ++ '=' :: '"' :: (valueOf a.value ++ '"' :: rest)) := rfl
  have hequals : ∀ more, tags .tag ('=' :: more) = '=' :: tags .tag more := fun _ => rfl
  rw [attributeText_append_eq, attributeText_append_eq, hblank, tags_name _ h, hequals, tags_quote,
    tags_valueOf, tags_unquote]
  rfl

/-- The values of attributes are passed over. -/
theorem tags_attributes {attributes : List Attribute} (h : ∀ a ∈ attributes, IsName a.name) :
    tags .tag (attributes.flatMap attributeText ++ '>' :: rest) =
      (attributes.map fun a => { a with value := "" }).flatMap attributeText ++
        '>' :: tags .between rest := by
  induction attributes with
  | nil => rfl
  | cons a attributes ih =>
    have hlater := ih fun b hb => h b (List.mem_cons_of_mem a hb)
    rw [List.flatMap_cons, List.append_assoc, tags_attributeText _ (h a List.mem_cons_self), hlater,
      List.map_cons, List.flatMap_cons, List.append_assoc]

/-- A start tag is kept with empty values. -/
theorem tags_startTag {name : ElementName} {attributes : List Attribute} (hname : IsName name.tag)
    (h : ∀ a ∈ attributes, IsName a.name) :
    tags .between (startTag name attributes ++ rest) =
      startTag name (attributes.map fun a => { a with value := "" }) ++ tags .between rest := by
  rw [startTag_append_eq, tags_open, tags_name _ hname, tags_attributes _ h, startTag_append_eq]

/-- An end tag is kept. -/
theorem tags_endTag {name : ElementName} (hname : IsName name.tag) :
    tags .between (endTag name ++ rest) = endTag name ++ tags .between rest := by
  have hopen : ∀ more, tags .between ('<' :: '/' :: more) = '<' :: '/' :: tags .tag more :=
    fun _ => rfl
  simp only [endTag, List.cons_append, List.append_assoc, List.nil_append]
  rw [hopen, tags_name _ hname, tags_close]

end Markup

open Markup

/-- A content with empty texts and values. -/
def Content.blanked : Content → Content
  | .element name attributes => .element name (attributes.map fun a => { a with value := "" })
  | .text _ => .text ""
  | content => content

namespace Tree

mutual

/-- The reader finds the tags of a plain tree, whatever its texts and values are. -/
theorem tags_ofTree : (t : Tree) → t.Plain → (rest : List Char) →
    tags .between (ofTree t ++ rest) = ofTree (t.map Content.blanked) ++ tags .between rest
  | .node content children, h, rest => by
    obtain ⟨hcontent, hchildren⟩ := h
    cases content with
    | element name attributes =>
      obtain ⟨-, hname, hattributes, -, -⟩ := hcontent
      have hbelow := tags_ofTrees children hchildren (endTag name ++ rest)
      rw [map, Content.blanked, ofTree_element_append, ofTree_element_append,
        tags_startTag _ hname hattributes]
      by_cases hv : name.isVoid = true
      · rw [if_pos hv, if_pos hv]
      · rw [if_neg hv, if_neg hv, hbelow, tags_endTag _ hname]
    | text data => exact tags_textOf rest data
    | placeholder => rfl
    | comment | document | fragment => exact hcontent.elim

/-- What several plain trees hold between their tags is passed over. -/
theorem tags_ofTrees : (trees : List Tree) → PlainAll trees → (rest : List Char) →
    tags .between (ofTrees trees ++ rest) =
      ofTrees (mapAll Content.blanked trees) ++ tags .between rest
  | [], _, _ => rfl
  | t :: later, h, rest => by
    rw [ofTrees, List.append_assoc, tags_ofTree t h.1, tags_ofTrees later h.2, mapAll, ofTrees,
      List.append_assoc]

end

end Tree

end PageHost
