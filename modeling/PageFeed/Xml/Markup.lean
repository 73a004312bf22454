import PageFeed.Xml.Name

/-! The pieces of an XML document and their written form, on one line or indented. -/

namespace PageFeed.Xml

inductive Piece
  | declaration
  | openTag (name : String) (attributes : List (String × String))
  | closeTag (name : String)
  | text (content : List Char)
  | cdata (content : List Char)
deriving DecidableEq, Repr

def escapeChar (c : Char) : List Char :=
  match c with
  | '&' => "&amp;".toList
  | '<' => "&lt;".toList
  | '>' => "&gt;".toList
  | '\x27' => "&apos;".toList
  | '"' => "&quot;".toList
  | _ => [c]

def escape (text : List Char) : List Char := text.flatMap escapeChar

def cdataOpen : List Char := "<![CDATA[".toList

def cdataClose : List Char := "]]>".toList

def writeAttributes (attributes : List (String × String)) : List Char :=
  attributes.flatMap fun attr =>
    ' ' :: attr.1.toList ++ '=' :: '"' :: escape attr.2.toList ++ ['"']

namespace Piece

def write : Piece → List Char
  | declaration => "<?xml version=\"1.0\" encoding=\"utf-8\"?>".toList
  | openTag name attributes => '<' :: name.toList ++ writeAttributes attributes ++ ['>']
  | closeTag name => '<' :: '/' :: name.toList ++ ['>']
  | text content => escape content
  | cdata content => cdataOpen ++ content ++ cdataClose

def isData : Piece → Bool
  | text _ => true
  | cdata _ => true
  | _ => false

def standsAt (depth : Nat) : Piece → Nat
  | closeTag _ => depth - 1
  | _ => depth

def leaves (depth : Nat) : Piece → Nat
  | openTag _ _ => depth + 1
  | closeTag _ => depth - 1
  | _ => depth

end Piece

def write (pieces : List Piece) : List Char := pieces.flatMap Piece.write

/-- Writes pieces with every tag on a line of its own, indented by its depth. A tag that follows
character data stays on the same line, as does the first piece of a document. -/
def writeIndented (width depth : Nat) (breaks : Bool) : List Piece → List Char
  | [] => []
  | piece :: rest =>
    (if breaks && !piece.isData then
      '\n' :: List.replicate (width * piece.standsAt depth) ' ' else []) ++
    piece.write ++ writeIndented width (piece.leaves depth) (!piece.isData) rest

end PageFeed.Xml
