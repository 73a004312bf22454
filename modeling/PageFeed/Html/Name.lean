/-! Names of elements and attributes in a page. Elements belong to HTML or to one of the two foreign
vocabularies that pages embed. Attributes are plain, except for the few that foreign elements take
from other vocabularies. -/

namespace PageFeed.Html

inductive Vocabulary
  | html
  | mathml
  | svg
deriving DecidableEq, Repr, Inhabited

structure ElementName where
  vocabulary : Vocabulary
  localName : String
deriving DecidableEq, Repr, Inhabited

def ElementName.html (localName : String) : ElementName := ⟨.html, localName⟩

/-- Where an attribute name comes from. `declaration` is the attribute `xmlns` itself and `xmlns`
its form with a further name. -/
inductive AttrSpace
  | plain
  | declaration
  | xlink
  | xml
  | xmlns
deriving DecidableEq, Repr, Inhabited

namespace AttrSpace

def rank : AttrSpace → Nat
  | plain => 0
  | declaration => 1
  | xlink => 2
  | xml => 3
  | xmlns => 4

def lead : AttrSpace → List Char
  | plain => []
  | declaration => []
  | xlink => "xlink:".toList
  | xml => "xml:".toList
  | xmlns => "xmlns:".toList

end AttrSpace

structure AttrName where
  space : AttrSpace
  localName : String
deriving DecidableEq, Repr, Inhabited

namespace AttrName

def plain (localName : String) : AttrName := ⟨.plain, localName⟩

def before (a b : AttrName) : Bool :=
  a.space.rank < b.space.rank || (a.space.rank == b.space.rank && a.localName < b.localName)

end AttrName

structure Attr where
  name : AttrName
  value : String
deriving DecidableEq, Repr, Inhabited

namespace Attr

def place (attr : Attr) : List Attr → List Attr
  | [] => [attr]
  | other :: rest =>
    if attr.name.before other.name then attr :: other :: rest
    else if attr.name = other.name then other :: rest
    else other :: place attr rest

def ordered (attrs : List Attr) : List Attr := attrs.foldl (fun sorted attr => attr.place sorted) []

def plainValue? (attrs : List Attr) (localName : String) : Option String :=
  (attrs.find? fun attr => attr.name == AttrName.plain localName).map Attr.value

end Attr

end PageFeed.Html
