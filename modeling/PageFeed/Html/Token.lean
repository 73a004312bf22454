import PageFeed.Html.Name

/-! The tokens that markup consists of. -/

namespace PageFeed.Html

/-- A tag: its name in lower case, its attributes in the order in which they are written, the first
of each name, and whether it ends with a slash. -/
structure Tag where
  name : String
  attrs : List Attr
  selfClosing : Bool := false
deriving DecidableEq, Repr, Inhabited

def Tag.alike (a b : Tag) : Bool :=
  a.name == b.name && Attr.ordered a.attrs == Attr.ordered b.attrs

structure Doctype where
  name : Option String := none
  publicId : Option String := none
  systemId : Option String := none
  defective : Bool := false
deriving DecidableEq, Repr, Inhabited

/-- One token. A `null` is a NUL character of the page where it does not stand for a replacement
character, and a `slip` is a malformed spot that has no other effect than to separate what comes
before it from what comes after. -/
inductive Token
  | doctype (declaration : Doctype)
  | startTag (tag : Tag)
  | endTag (tag : Tag)
  | comment (text : String)
  | text (content : List Char)
  | null
  | slip
  | finish
deriving DecidableEq, Repr, Inhabited

/-- How the text after a start tag is read: as markup, as text with character references, as text
alone, as a script, or as text up to the end of the page. -/
inductive TextKind
  | markup
  | escapable
  | raw
  | script
  | plain
deriving DecidableEq, Repr, Inhabited

end PageFeed.Html
