import PageFeed.Text.Digits

/-! Positions in a YAML text, and the classes of characters that matter there. -/

namespace PageFeed.Yaml

structure Spot where
  byte : Nat := 0
  line : Nat := 0
  column : Nat := 0
deriving DecidableEq, Repr, Inhabited

structure Cursor where
  rest : List Char
  spot : Spot := {}
deriving DecidableEq, Repr, Inhabited

def isBlank (c : Char) : Bool := c == ' ' || c == '\t'

def isBreak (c : Char) : Bool :=
  c == '\n' || c == '\r' || c == '\u0085' || c == '\u2028' || c == '\u2029'

def isWordChar (c : Char) : Bool := c.isAlphanum || c == '_' || c == '-'

def isAllowed (c : Char) : Bool :=
  let n := c.toNat
  n == 0x09 || n == 0x0a || n == 0x0d || (0x20 ≤ n && n ≤ 0x7e) || n == 0x85 ||
    (0xa0 ≤ n && n ≤ 0xd7ff) || (0xe000 ≤ n && n ≤ 0xfffd) || 0x10000 ≤ n

namespace Cursor

def peek? (cursor : Cursor) : Option Char := cursor.rest.head?

def peekAt? (cursor : Cursor) (n : Nat) : Option Char := cursor.rest[n]?

def startsWith (cursor : Cursor) (c : Char) : Bool := cursor.peek? == some c

def startsWithAll (cursor : Cursor) (text : List Char) : Bool := text.isPrefixOf cursor.rest

def atBlank (cursor : Cursor) : Bool := cursor.peek?.any isBlank

def atBreak (cursor : Cursor) : Bool := cursor.peek?.any isBreak

def atLineEnd (cursor : Cursor) : Bool := cursor.peek?.all isBreak

def wordEndsAt (cursor : Cursor) (n : Nat) : Bool :=
  (cursor.peekAt? n).all fun c => isBlank c || isBreak c

def atEnd (cursor : Cursor) : Bool := cursor.rest.isEmpty

def skip (cursor : Cursor) : Cursor :=
  match cursor.rest with
  | [] => cursor
  | c :: rest =>
    ⟨rest, ⟨cursor.spot.byte + c.utf8Size, cursor.spot.line, cursor.spot.column + 1⟩⟩

def skipMany (cursor : Cursor) : Nat → Cursor
  | 0 => cursor
  | n + 1 => cursor.skip.skipMany n

def span (cursor : Cursor) (belongs : Char → Bool) : List Char × Cursor :=
  let found := cursor.rest.takeWhile belongs
  (found, cursor.skipMany found.length)

def skipLine (cursor : Cursor) : Cursor :=
  match cursor.rest with
  | '\r' :: '\n' :: rest => ⟨rest, ⟨cursor.spot.byte + 2, cursor.spot.line + 1, 0⟩⟩
  | c :: rest =>
    if isBreak c then ⟨rest, ⟨cursor.spot.byte + c.utf8Size, cursor.spot.line + 1, 0⟩⟩ else cursor
  | [] => cursor

/-- What the end of a line adds to a text, if a line ends here. Most ends of lines become line
feeds. -/
def lineBreak (cursor : Cursor) : List Char :=
  match cursor.peek? with
  | some c =>
    if c == '\u2028' || c == '\u2029' then [c] else if isBreak c then ['\n'] else []
  | none => []

def skipBlanks (cursor : Cursor) : Cursor := (cursor.span isBlank).2

def toLineEnd (cursor : Cursor) : Cursor := (cursor.span (!isBreak ·)).2

def atDocumentMark (cursor : Cursor) : Bool :=
  cursor.spot.column == 0 &&
    (cursor.startsWithAll ['-', '-', '-'] || cursor.startsWithAll ['.', '.', '.']) &&
    cursor.wordEndsAt 3

end Cursor

end PageFeed.Yaml
