import PageFeed.Feed
import PageFeed.Xml.Markup

/-! Feeds written as Atom documents. Every named value of the feed becomes a child of the root
element and every entry an element with one child for each of its values. Values carry no type: one
that is shaped like a CDATA section is written as it is, and any other is escaped. -/

namespace PageFeed.Atom

open Xml

inductive RenderFault
  | invalidName (name : String)
  | other (message : String)
deriving DecidableEq, Repr

def RenderFault.message : RenderFault → String
  | invalidName name => s!"invalid element name `{name}`"
  | other message => message

def nameSpace : String := "http://www.w3.org/2005/Atom"

/-- The content of a value that has the shape of a CDATA section. -/
def cdataContent? (value : List Char) : Option (List Char) :=
  (cdataOpen.isPrefixOf? value).bind cdataClose.isSuffixOf?

/-- The content of a field's element. An empty value has none. -/
def valuePieces (value : List Char) : List Piece :=
  match cdataContent? value with
  | some content => [.cdata content]
  | none => if value.isEmpty then [] else [.text value]

def fieldPieces (field : String × String) : List Piece :=
  .openTag field.1 [] :: valuePieces field.2.toList ++ [.closeTag field.1]

def fieldsPieces (fields : Fields String) : List Piece := fields.toList.flatMap fieldPieces

def entryPieces (entry : Entry) : List Piece :=
  .openTag "entry" [] :: fieldsPieces entry ++ [.closeTag "entry"]

def pieces (feed : Feed) : List Piece :=
  .declaration :: .openTag "feed" [("xmlns", nameSpace)] :: fieldsPieces feed.info ++
    feed.entries.flatMap entryPieces ++ [.closeTag "feed"]

def writtenNames (feed : Feed) : List String :=
  feed.info.names ++ feed.entries.flatMap Fields.names

abbrev Indent := Option Nat

def writePieces (indent : Indent) (pieces : List Piece) : List Char :=
  match indent with
  | none => write pieces
  | some width => writeIndented width 0 false pieces

/-- The Atom document of a feed. The first field whose name is not an XML name stands in the way. -/
def render (indent : Indent) (feed : Feed) : Except RenderFault String :=
  match (writtenNames feed).find? fun name => !isName name with
  | some name => .error (.invalidName name)
  | none => .ok (String.ofList (writePieces indent (pieces feed)))

end PageFeed.Atom
