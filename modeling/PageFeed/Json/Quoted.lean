import PageFeed.Json.Cursor
import PageFeed.Text.Digits

/-! Texts between quotes in JSON. Characters beyond 16 bits are escaped as two halves. -/

namespace PageFeed.Json.Quoted

def readUnit (cursor : Cursor) : Except Data.Fault (Nat × Cursor) :=
  let bytes := (cursor.rest.take 4).flatMap fun c => c :: List.replicate (c.utf8Size - 1) '\x00'
  let stop := (List.range 4).foldl (fun cursor _ => cursor.advance) cursor
  if bytes.length < 4 then
    let final := cursor.rest.foldl (fun cursor _ => cursor.advance) cursor
    .error (final.flawHere .endInString)
  else
    match (bytes.take 4).mapM Text.hexDigit? with
    | some digits => .ok (digits.foldl (fun n digit => 16 * n + digit) 0, stop)
    | none => .error ⟨.flawed .invalidEscape, some (bytes.take 4 |>.foldl step cursor.mark), []⟩
where
  step (mark : Data.Mark) (c : Char) : Data.Mark :=
    if c == '\n' then ⟨mark.line + 1, 0⟩ else ⟨mark.line, mark.column + 1⟩

/-- Whether a number is the first or the second half of a character. -/
def isHalf (first : Bool) (unit : Nat) : Bool :=
  if first then 0xd800 ≤ unit && unit ≤ 0xdbff else 0xdc00 ≤ unit && unit ≤ 0xdfff

def expectHalf (wanted : Char) (cursor : Cursor) : Except Data.Fault Cursor :=
  match cursor.peek? with
  | none => .error (cursor.flawHere .endInString)
  | some c => if c == wanted then .ok cursor.advance
    else .error (cursor.flawAhead .unfinishedSurrogate)

def readCodePoint (cursor : Cursor) : Except Data.Fault (Char × Cursor) := do
  let (unit, cursor) ← readUnit cursor
  if isHalf false unit then .error (cursor.flawHere .loneSurrogate)
  else if isHalf true unit then
    let cursor ← expectHalf 'u' (← expectHalf '\\' cursor)
    let (second, cursor) ← readUnit cursor
    if isHalf false second then
      .ok (Char.ofNat (0x10000 + (unit - 0xd800) * 0x400 + (second - 0xdc00)), cursor)
    else .error (cursor.flawHere .loneSurrogate)
  else .ok (Char.ofNat unit, cursor)

def unescape? (c : Char) : Option Char :=
  match c with
  | '"' => some '"'
  | '\\' => some '\\'
  | '/' => some '/'
  | 'b' => some '\x08'
  | 'f' => some '\x0c'
  | 'n' => some '\n'
  | 'r' => some '\r'
  | 't' => some '\t'
  | _ => none

def readEscape (cursor : Cursor) : Except Data.Fault (Char × Cursor) :=
  match cursor.peek? with
  | none => .error (cursor.flawHere .endInString)
  | some 'u' => readCodePoint cursor.advance
  | some c =>
    match unescape? c with
    | some plain => .ok (plain, cursor.advance)
    | none => .error (cursor.flawAhead .invalidEscape)

/-- Reads a text behind its opening quote, after the characters read so far in reverse order. Every
round takes at least one character. -/
def readFrom (read : List Char) : (rounds : Nat) → Cursor → Except Data.Fault (String × Cursor)
  | 0, cursor => .error (cursor.flawHere .endInString)
  | rounds + 1, cursor =>
    match cursor.peek? with
    | none => .error (cursor.flawHere .endInString)
    | some '"' => .ok (String.ofList read.reverse, cursor.advance)
    | some '\\' =>
      match readEscape cursor.advance with
      | .ok (c, cursor) => readFrom (c :: read) rounds cursor
      | .error fault => .error fault
    | some c =>
      if c.toNat < 0x20 then .error (cursor.flawAhead .controlCharacter)
      else readFrom (c :: read) rounds cursor.advance

def read (size : Nat) (cursor : Cursor) : Except Data.Fault (String × Cursor) :=
  readFrom [] (size + 1) cursor

end PageFeed.Json.Quoted
