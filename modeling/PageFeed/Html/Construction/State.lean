import PageFeed.Html.Construction.Classes
import PageFeed.Html.Document
import PageFeed.Html.Token
import PageFeed.Text.Blank

/-! The state of the construction of a page: the tree built so far, the elements that are still
open, and the formatting elements that are opened again after a block has closed them. -/

namespace PageFeed.Html

inductive Mode
  | initial
  | beforeHtml
  | beforeHead
  | inHead
  | afterHead
  | inBody
  | inText
  | inTable
  | inTableText
  | inCaption
  | inColumnGroup
  | inTableBody
  | inRow
  | inCell
  | inSelect
  | inSelectInTable
  | inTemplate
  | afterBody
  | inFrameset
  | afterFrameset
  | afterAfterBody
  | afterAfterFrameset
deriving DecidableEq, Repr, Inhabited

/-- A formatting element with the tag that opened it, or a marker that hides those before it. -/
inductive Formatting
  | marker
  | element (id : NodeId) (tag : Tag)
deriving DecidableEq, Repr, Inhabited

/-- The state of a construction. Open and formatting elements are listed from the last opened on. -/
structure Builder where
  document : Document := .blank
  isFragment : Bool := false
  mode : Mode := .initial
  returnMode : Mode := .inBody
  templateModes : List Mode := []
  opened : List NodeId := []
  formatting : List Formatting := []
  head : Option NodeId := none
  form : Option NodeId := none
  framesetAllowed : Bool := true
  dropsLineFeed : Bool := false
  fosters : Bool := false
  pending : List (List Char) := []
  isQuirky : Bool := false
deriving Inhabited

/-- What is left to do after a token has been looked at: nothing, to look at a token in another
mode, or to read the text that follows as one of another kind. -/
inductive Outcome
  | done
  | again (mode : Mode) (token : Token)
  | readAs (kind : TextKind)
deriving DecidableEq, Repr, Inhabited

namespace Builder

def nameOf (b : Builder) (id : NodeId) : ElementName := (b.document.elementName? id).getD default

def currentHas (b : Builder) (property : ElementName → Bool) : Bool :=
  match b.opened.head? with
  | some id => property (b.nameOf id)
  | none => false

def currentIs (b : Builder) (localName : String) : Bool := b.currentHas (·.among [localName])

def hasOpen (b : Builder) (localName : String) : Bool :=
  b.opened.any fun id => (b.nameOf id).among [localName]

def inScope (b : Builder) (bounds : ElementName → Bool) (test : NodeId → Bool) : Bool :=
  go b.opened
where
  go : List NodeId → Bool
    | [] => false
    | id :: outer => if test id then true else if bounds (b.nameOf id) then false else go outer

def namedInScope (b : Builder) (bounds : ElementName → Bool) (localName : String) : Bool :=
  b.inScope bounds fun id => (b.nameOf id).among [localName]

def pop (b : Builder) : Builder := { b with opened := b.opened.tail }

def push (b : Builder) (id : NodeId) : Builder := { b with opened := id :: b.opened }

def popUntil (b : Builder) (property : ElementName → Bool) : Builder :=
  { b with opened := (b.opened.dropWhile fun id => !property (b.nameOf id)).tail }

def popUntilNamed (b : Builder) (localName : String) : Builder := b.popUntil (·.among [localName])

def popUntilCurrent (b : Builder) (property : ElementName → Bool) : Builder :=
  { b with opened := b.opened.dropWhile fun id => !property (b.nameOf id) }

def popWhile (b : Builder) (property : ElementName → Bool) : Builder :=
  { b with opened := b.opened.dropWhile fun id => property (b.nameOf id) }

def closeImplied (b : Builder) : Builder := b.popWhile (·.endsImplicitly)

def closeImpliedExcept (b : Builder) (localName : String) : Builder :=
  b.popWhile fun name => name.endsImplicitly && !name.among [localName]

def closeParagraph (b : Builder) : Builder := (b.closeImpliedExcept "p").popUntilNamed "p"

def closeParagraphInScope (b : Builder) : Builder :=
  if b.namedInScope (·.boundsButtonScope) "p" then b.closeParagraph else b

def close (b : Builder) (id : NodeId) : Builder := { b with opened := b.opened.erase id }

def outermost? (b : Builder) : Option NodeId := b.opened.getLast?

def body? (b : Builder) : Option NodeId :=
  match b.opened.reverse with
  | _ :: id :: _ => if (b.nameOf id).among ["body"] then some id else none
  | _ => none

def clearFormatting (b : Builder) : Builder :=
  { b with formatting := (b.formatting.dropWhile (· != .marker)).tail }

def formattingToMarker (b : Builder) : List Formatting := b.formatting.takeWhile (· != .marker)


end Builder

namespace Formatting

def isElement (id : NodeId) : Formatting → Bool
  | element other _ => other == id
  | marker => false

def isNamed (localName : String) : Formatting → Bool
  | element _ tag => tag.name == localName
  | marker => false

end Formatting

namespace Builder

def isFormatting (b : Builder) (id : NodeId) : Bool := b.formatting.any (·.isElement id)

def forget (b : Builder) (id : NodeId) : Builder :=
  { b with formatting := b.formatting.eraseP (·.isElement id) }

def modeFor (b : Builder) : Mode := go b.opened
where
  go : List NodeId → Mode
    | [] => .inBody
    | id :: outer =>
      let last := outer.isEmpty
      if last && b.isFragment then .inBody
      else
        let name := b.nameOf id
        if name.vocabulary != .html then go outer
        else
          match name.localName with
          | "select" => selectMode outer
          | "td" => if last then go outer else .inCell
          | "th" => if last then go outer else .inCell
          | "tr" => .inRow
          | "tbody" => .inTableBody
          | "thead" => .inTableBody
          | "tfoot" => .inTableBody
          | "caption" => .inCaption
          | "colgroup" => .inColumnGroup
          | "table" => .inTable
          | "template" => b.templateModes.head?.getD .inBody
          | "head" => if last then go outer else .inHead
          | "body" => .inBody
          | "frameset" => .inFrameset
          | "html" => if b.head.isNone then .beforeHead else .afterHead
          | _ => go outer
  selectMode : List NodeId → Mode
    | [] => .inSelect
    | id :: outer =>
      if (b.nameOf id).among ["template"] then .inSelect
      else if (b.nameOf id).among ["table"] then .inSelectInTable
      else selectMode outer

end Builder

abbrev Build := StateM Builder

end PageFeed.Html
