import PageFeed.Html.Document

/-! The part of a page below one node as a tree, its text, and its written form. -/

namespace PageFeed.Html

inductive Tree
  | node (id : NodeId) (data : NodeData) (children : List Tree)

namespace Document

def treeTo (document : Document) : Nat → NodeId → Tree
  | 0, id => .node id (document.data id) []
  | depth + 1, id =>
    .node id (document.data id) ((document.children id).map (document.treeTo depth))

/-- The tree below a node. No branch is longer than the number of nodes. -/
def tree (document : Document) (id : NodeId) : Tree := document.treeTo document.nodes.size id

end Document

namespace Tree

def id : Tree → NodeId
  | node id _ _ => id

def children : Tree → List Tree
  | node _ _ children => children

mutual

/-- The numbers of all nodes, each before those below it. -/
def ids : Tree → List NodeId
  | node id _ children => id :: idsOfAll children

def idsOfAll : List Tree → List NodeId
  | [] => []
  | tree :: rest => tree.ids ++ idsOfAll rest

end

mutual

/-- All text below a node in order, that of scripts and styles included, put in front of a text. -/
def textBefore (rest : List Char) : Tree → List Char
  | node _ data children =>
    match data with
    | .text content => content.toList ++ textOfAllBefore rest children
    | _ => textOfAllBefore rest children

def textOfAllBefore (rest : List Char) : List Tree → List Char
  | [] => rest
  | tree :: later => tree.textBefore (textOfAllBefore rest later)

end

def text (tree : Tree) : List Char := tree.textBefore []

def voidNames : List String := [
  "area", "base", "basefont", "bgsound", "br", "col", "embed", "frame", "hr", "img", "input",
  "keygen", "link", "meta", "param", "source", "track", "wbr"]

def rawNames : List String := [
  "style", "script", "xmp", "iframe", "noembed", "noframes", "plaintext"]

def isVoid (name : ElementName) : Bool :=
  name.vocabulary == .html && voidNames.contains name.localName

def isRaw (name : ElementName) : Bool :=
  name.vocabulary == .html && rawNames.contains name.localName

def escapeTextChar (c : Char) : List Char :=
  match c with
  | '&' => "&amp;".toList
  | '\u00a0' => "&nbsp;".toList
  | '<' => "&lt;".toList
  | '>' => "&gt;".toList
  | _ => [c]

def escapeValueChar (c : Char) : List Char :=
  match c with
  | '&' => "&amp;".toList
  | '\u00a0' => "&nbsp;".toList
  | '"' => "&quot;".toList
  | _ => [c]

def writeAttr (attr : Attr) : List Char :=
  ' ' :: attr.name.space.lead ++ attr.name.localName.toList ++
    '=' :: '"' :: attr.value.toList.flatMap escapeValueChar ++ ['"']

def startTag (name : ElementName) (attrs : List Attr) : List Char :=
  '<' :: name.localName.toList ++ attrs.flatMap writeAttr ++ ['>']

def endTag (name : ElementName) : List Char := '<' :: '/' :: name.localName.toList ++ ['>']

mutual

/-- The written form of a node with all that is below it, put in front of a text. Text is written as
it is where `raw` holds, that is, right below an element that asks for it. -/
def markupBefore (raw : Bool) (rest : List Char) : Tree → List Char
  | node _ data children =>
    match data with
    | .element name attrs =>
      if isVoid name then startTag name attrs ++ rest
      else startTag name attrs ++ markupOfAllBefore (isRaw name) (endTag name ++ rest) children
    | .text content =>
      (if raw then content.toList else content.toList.flatMap escapeTextChar) ++ rest
    | .comment content => "<!--".toList ++ content.toList ++ "-->".toList ++ rest
    | .doctype name => "<!DOCTYPE ".toList ++ name.toList ++ '>' :: rest
    | .root => markupOfAllBefore raw rest children
    | .holder => markupOfAllBefore raw rest children

def markupOfAllBefore (raw : Bool) (rest : List Char) : List Tree → List Char
  | [] => rest
  | tree :: later => tree.markupBefore raw (markupOfAllBefore raw rest later)

end

def outerMarkup (tree : Tree) : List Char := tree.markupBefore false []

/-- The written form of what is below a node. The node itself is left out, so its text is never
written as it is. -/
def innerMarkup (tree : Tree) : List Char := markupOfAllBefore false [] tree.children

end Tree

end PageFeed.Html
