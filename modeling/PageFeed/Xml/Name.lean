import PageFeed.Text.Spans

/-! Names of elements as the XML recommendation defines them. -/

namespace PageFeed.Xml

open Text (Spans)

def nameStartSpans : Spans := [
  (0x3a, 0x3a), (0x5f, 0x5f), (0x41, 0x5a), (0x61, 0x7a), (0xc0, 0xd6), (0xd8, 0xf6),
  (0xf8, 0x2ff), (0x370, 0x37d), (0x37f, 0x1fff), (0x200c, 0x200d), (0x2070, 0x218f),
  (0x2c00, 0x2fef), (0x3001, 0xd7ff), (0xf900, 0xfdcf), (0xfdf0, 0xfffd), (0x10000, 0xeffff)]

def nameMoreSpans : Spans := [
  (0x2d, 0x2d), (0x2e, 0x2e), (0x30, 0x39), (0xb7, 0xb7), (0x300, 0x36f), (0x203f, 0x2040)]

def isNameStart (c : Char) : Bool := nameStartSpans.has c

def isNamePart (c : Char) : Bool := isNameStart c || nameMoreSpans.has c

def isName (name : String) : Bool :=
  match name.toList with
  | [] => false
  | first :: rest => isNameStart first && rest.all isNamePart

end PageFeed.Xml
