import PageFeed.Data.Node

/-! Positions in a text. Columns count the bytes of a line in UTF-8 that have been read. -/

namespace PageFeed.Json

open Data (Mark)

structure Cursor where
  rest : List Char
  line : Nat := 1
  column : Nat := 0
deriving DecidableEq, Repr, Inhabited

namespace Cursor

def mark (cursor : Cursor) : Mark := ⟨cursor.line, cursor.column⟩

/-- The position behind the next byte, if there is one, as a place for reports. -/
def peekMark (cursor : Cursor) : Mark :=
  match cursor.rest with
  | [] => cursor.mark
  | '\n' :: _ => ⟨cursor.line + 1, 0⟩
  | _ => ⟨cursor.line, cursor.column + 1⟩

def peek? (cursor : Cursor) : Option Char := cursor.rest.head?

def advance (cursor : Cursor) : Cursor :=
  match cursor.rest with
  | [] => cursor
  | '\n' :: rest => ⟨rest, cursor.line + 1, 0⟩
  | c :: rest => ⟨rest, cursor.line, cursor.column + c.utf8Size⟩

def skipFrom (skip : Char → Bool) (line column : Nat) : List Char → Cursor
  | [] => ⟨[], line, column⟩
  | c :: rest =>
    if skip c then
      if c == '\n' then skipFrom skip (line + 1) 0 rest
      else skipFrom skip line (column + c.utf8Size) rest
    else ⟨c :: rest, line, column⟩

def isSpace (c : Char) : Bool := c == ' ' || c == '\n' || c == '\t' || c == '\r'

def skipSpace (cursor : Cursor) : Cursor := skipFrom isSpace cursor.line cursor.column cursor.rest

def skipDigits (cursor : Cursor) : Cursor :=
  skipFrom Char.isDigit cursor.line cursor.column cursor.rest

/-- A flaw that shows at the next byte. -/
def flawAhead (cursor : Cursor) (flaw : Flaw) : Data.Fault := ⟨.flawed flaw, cursor.peekMark, []⟩

/-- A flaw that shows at the last byte read. -/
def flawHere (cursor : Cursor) (flaw : Flaw) : Data.Fault := ⟨.flawed flaw, cursor.mark, []⟩

end Cursor

end PageFeed.Json
