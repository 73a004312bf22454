import PageFeed.Html.Construction.State

/-! Putting elements, text and comments into the tree under construction, and keeping formatting
elements in force across blocks. -/

namespace PageFeed.Html.Builder

/-- A place in the tree: the end of a node, or right before a table, which is the end of the element
the table was opened in when the table itself is in no tree. -/
inductive Place
  | endOf (parent : NodeId)
  | before (table outer : NodeId)
deriving DecidableEq, Repr

/-- Where content goes that is not allowed in a table: before the innermost table, or into the
template that is further in. -/
def fosterPlace (b : Builder) : List NodeId → Place
  | [] => .endOf (b.outermost?.getD Document.rootId)
  | id :: outer =>
    if (b.nameOf id).among ["template"] then .endOf (b.document.templateContent id)
    else if (b.nameOf id).among ["table"] then .before id (outer.head?.getD Document.rootId)
    else fosterPlace b outer

def placeIn (b : Builder) (target : NodeId) : Place :=
  if b.fosters && (b.nameOf target).isTablePart then b.fosterPlace b.opened
  else if (b.nameOf target).among ["template"] then .endOf (b.document.templateContent target)
  else .endOf target

def place (b : Builder) : Place := b.placeIn (b.opened.head?.getD Document.rootId)

def putNode (document : Document) (place : Place) (id : NodeId) : Document :=
  match place with
  | .endOf parent => document.append parent id
  | .before table outer =>
    if (document.parent? table).isSome then document.insertBefore table id
    else document.append outer id

def putText (document : Document) (place : Place) (text : String) : Document :=
  match place with
  | .endOf parent => document.appendText parent text
  | .before table outer =>
    if (document.parent? table).isSome then document.insertTextBefore table text
    else document.appendText outer text

def addElement (b : Builder) (name : ElementName) (attrs : List Attr) : NodeId × Builder :=
  let (id, document) := b.document.createElement name attrs
  (id, { b with document := putNode document b.place id })

def openElement (b : Builder) (name : ElementName) (attrs : List Attr) : NodeId × Builder :=
  let (id, b) := b.addElement name attrs
  (id, b.push id)

def openTag (b : Builder) (tag : Tag) : Builder := (b.openElement (.html tag.name) tag.attrs).2

def openMissing (b : Builder) (localName : String) : Builder :=
  (b.openElement (.html localName) []).2

def addTag (b : Builder) (tag : Tag) : Builder := (b.addElement (.html tag.name) tag.attrs).2

def addText (b : Builder) (content : List Char) : Builder :=
  { b with document := putText b.document b.place (String.ofList content) }

def addComment (b : Builder) (text : String) : Builder :=
  let (id, document) := b.document.create (.comment text)
  { b with document := putNode document b.place id }

def addCommentTo (b : Builder) (parent : NodeId) (text : String) : Builder :=
  let (id, document) := b.document.create (.comment text)
  { b with document := document.append parent id }

def openRoot (b : Builder) (attrs : List Attr) : Builder :=
  let (id, document) := b.document.createElement (.html "html") attrs
  { b with document := document.append Document.rootId id }.push id

/-- The formatting elements that are to be opened again, the last opened first: those after the last
marker and the last element that is open. -/
def lostFormatting (b : Builder) : List Formatting :=
  b.formatting.takeWhile fun entry =>
    match entry with
    | .marker => false
    | .element id _ => !b.opened.contains id

/-- Opens again a list of formatting elements, the first opened first, in front of the entries that
stay as they are. -/
def reopen (b : Builder) (kept : List Formatting) : List Formatting → Builder
  | [] => { b with formatting := kept }
  | .marker :: rest => reopen b (.marker :: kept) rest
  | .element _ tag :: rest =>
    let (id, b) := b.openElement (.html tag.name) tag.attrs
    reopen b (.element id tag :: kept) rest

def reopenFormatting (b : Builder) : Builder :=
  let lost := b.lostFormatting
  if lost.isEmpty then b
  else b.reopen (b.formatting.drop lost.length) lost.reverse

def alikeEntries (tag : Tag) (entries : List Formatting) : List NodeId :=
  entries.filterMap fun entry =>
    match entry with
    | .element id other => if tag.alike other then some id else none
    | .marker => none

/-- Opens the formatting element of a tag. Of elements alike, no more than three are kept. -/
def openFormatting (b : Builder) (tag : Tag) : Builder :=
  let alike := alikeEntries tag b.formattingToMarker
  let b := if alike.length ≥ 3 then
      match alike.getLast? with
      | some earliest => b.forget earliest
      | none => b
    else b
  let (id, b) := b.openElement (.html tag.name) tag.attrs
  { b with formatting := .element id tag :: b.formatting }

def markFormatting (b : Builder) : Builder := { b with formatting := .marker :: b.formatting }

end Builder

end PageFeed.Html
