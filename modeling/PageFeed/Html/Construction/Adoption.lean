import PageFeed.Html.Construction.Insertion

/-! End tags that do not match the innermost open element. An end tag of a formatting element that
has blocks open in it splits the element: the blocks are moved out and get a copy of it. -/

namespace PageFeed.Html.Builder

def closeNamed (b : Builder) (localName : String) : Builder := go b.opened
where
  go : List NodeId → Builder
    | [] => b
    | id :: outer =>
      if (b.nameOf id).among [localName] then { b with opened := outer }
      else if (b.nameOf id).isSpecial then b
      else go outer

/-- Where the entry of the copy goes among the formatting elements: in place of the element that is
split, or right after another. -/
inductive Bookmark
  | inPlace
  | after (id : NodeId)
deriving DecidableEq, Repr

def replaceOpened (old new : NodeId) (opened : List NodeId) : List NodeId :=
  opened.map fun id => if id = old then new else id

def replaceFormatting (old new : NodeId) (entries : List Formatting) : List Formatting :=
  entries.map fun entry =>
    match entry with
    | .element id tag => if id = old then .element new tag else entry
    | .marker => entry

def formattingTag? (b : Builder) (id : NodeId) : Option Tag :=
  b.formatting.findSome? fun entry =>
    match entry with
    | .element other tag => if other = id then some tag else none
    | .marker => none

/-- Walks the open elements between a block and the formatting element that is split. The first
three that are formatting elements are copied, each copy taking what is below it; the others are
closed. The result is the topmost node moved, and the place of the entry of the last copy. -/
def copyBetween (b : Builder) (block : NodeId) : (count : Nat) → (last : NodeId) → Bookmark →
    List NodeId → Builder × NodeId × Bookmark
  | _, last, bookmark, [] => (b, last, bookmark)
  | count, last, bookmark, id :: rest =>
    if count ≥ 3 then copyBetween ((b.forget id).close id) block (count + 1) last bookmark rest
    else
      match b.formattingTag? id with
      | none => copyBetween (b.close id) block (count + 1) last bookmark rest
      | some tag =>
        let (copy, document) := b.document.createElement (.html tag.name) tag.attrs
        let b := { b with
          document := document.append copy last
          opened := replaceOpened id copy b.opened
          formatting := replaceFormatting id copy b.formatting }
        let bookmark := if last = block then .after copy else bookmark
        copyBetween b block (count + 1) copy bookmark rest

def insertAfter (id : NodeId) (entry : Formatting) : List Formatting → List Formatting
  | [] => []
  | other :: rest =>
    if other.isElement id then entry :: other :: rest else other :: insertAfter id entry rest

def openInside (block copy : NodeId) : List NodeId → List NodeId
  | [] => []
  | id :: outer => if id = block then copy :: id :: outer else id :: openInside block copy outer

/-- Splits a formatting element around the outermost block that is open in it. -/
def splitAround (b : Builder) (subject : NodeId) (tag : Tag) (block : NodeId)
    (between outer : List NodeId) : Builder :=
  let (b, last, bookmark) := b.copyBetween block 0 block .inPlace between
  let target := outer.head?.getD Document.rootId
  let document := b.document.detach last
  let document := putNode document (placeIn { b with document } target) last
  let (copy, document) := document.createElement (.html tag.name) tag.attrs
  let document := (document.moveChildren block copy).append block copy
  let entry := Formatting.element copy tag
  let formatting := match bookmark with
    | .inPlace => b.formatting.map fun other => if other.isElement subject then entry else other
    | .after id => (insertAfter id entry b.formatting).eraseP (·.isElement subject)
  { b with
    document, formatting
    opened := openInside block copy (b.opened.erase subject) }

/-- Repeats the treatment of an end tag of a formatting element until nothing is left to split, a
limited number of times. -/
def adoptTimes (localName : String) : Nat → Builder → Builder
  | 0, b => b
  | times + 1, b =>
    match b.formattingToMarker.find? (·.isNamed localName) with
    | some (.element subject tag) =>
      if !b.opened.contains subject then b.forget subject
      else if !b.inScope (·.boundsScope) (· == subject) then b
      else
        let inner := b.opened.takeWhile (· != subject)
        let outer := (b.opened.dropWhile (· != subject)).tail
        match inner.reverse.find? fun id => (b.nameOf id).isSpecial with
        | none => { b with opened := outer }.forget subject
        | some block =>
          let between := (inner.dropWhile (· != block)).tail
          adoptTimes localName times (b.splitAround subject tag block between outer)
    | _ => b.closeNamed localName

def adopt (b : Builder) (localName : String) : Builder :=
  let closable := match b.opened.head? with
    | some id => (b.nameOf id).among [localName] && !b.isFormatting id
    | none => false
  if closable then b.pop else adoptTimes localName 8 b

end PageFeed.Html.Builder
