import PageHost.Document.Tree
/-!
# Markup

The text form of a tree. Texts and attribute values are escaped; names and
comment data are written as they are. A void element has neither content nor an
end tag. Fragments and the document itself leave no trace but their children.
-/

namespace PageHost

/-- HTML elements that are written without content and end tag. -/
def voidTags : List String :=
  ["area", "base", "br", "col", "embed", "hr", "img", "input", "link", "meta", "source", "track",
    "wbr"]

/-- Whether an element of this name is void. -/
def ElementName.isVoid (name : ElementName) : Bool :=
  name.space.isNone && voidTags.contains name.tag

namespace Markup

/-- A character of a text. -/
def escapeText (c : Char) : List Char :=
  match c with
  | '&' => ['&', 'a', 'm', 'p', ';']
  | '<' => ['&', 'l', 't', ';']
  | '>' => ['&', 'g', 't', ';']
  | c => [c]

/-- A character of an attribute value. -/
def escapeValue (c : Char) : List Char :=
  match c with
  | '"' => ['&', 'q', 'u', 'o', 't', ';']
  | c => escapeText c

/-- An attribute with the blank before it. -/
def attributeText (a : Attribute) : List Char :=
  ' ' :: (a.name.toList ++ '=' :: '"' :: (a.value.toList.flatMap escapeValue ++ ['"']))

/-- A start tag. -/
def startTag (name : ElementName) (attributes : List Attribute) : List Char :=
  '<' :: (name.tag.toList ++ attributes.flatMap attributeText ++ ['>'])

/-- An end tag. -/
def endTag (name : ElementName) : List Char := '<' :: '/' :: (name.tag.toList ++ ['>'])

/-- A comment. -/
def comment (data : String) : List Char :=
  "<!--".toList ++ data.toList ++ "-->".toList

mutual

/-- The markup of a tree. -/
def ofTree : Tree → List Char
  | .node content children =>
    match content with
    | .placeholder => comment "placeholder"
    | .comment data => comment data
    | .text data => data.toList.flatMap escapeText
    | .document => ofTrees children
    | .fragment => ofTrees children
    | .element name attributes =>
      if name.isVoid then startTag name attributes
      else startTag name attributes ++ ofTrees children ++ endTag name

/-- The markup of trees one after the other. -/
def ofTrees : List Tree → List Char
  | [] => []
  | t :: rest => ofTree t ++ ofTrees rest

end

end Markup

namespace Document

/-- The markup of a node; empty if it is missing. -/
def outerHtml (doc : Document) (h : Handle) : String :=
  match doc.tree? h with
  | none => ""
  | some tree => String.ofList (Markup.ofTree tree)

/-- The markup of the children of a node; empty if it is missing. -/
def innerHtml (doc : Document) (h : Handle) : String :=
  match doc.tree? h with
  | none => ""
  | some tree => String.ofList (Markup.ofTrees tree.children)

end Document

end PageHost
