import PageFeed.Json.Number
import PageFeed.Json.Quoted
import PageFeed.Json.Value

/-! Structured data read from JSON. Reading goes on up to the first flaw, which becomes part of the
data. The places for reports are those a reader would have reached who reads the text as far as it
has to: to the end of a refused scalar, and over blanks and the end of a refused table. -/

namespace PageFeed.Json

open Data (Node Item Pair Scalar Fault)

/-- A read node with the position behind it; behind a flaw nothing is read. -/
abbrev Outcome := Node × Option Cursor

/-- The place for a report behind a part of a table: over blanks, and over the end if it is
there. -/
def closingMark (close : Char) (cursor : Cursor) : Data.Mark :=
  let cursor := cursor.skipSpace
  if cursor.peek? == some close then cursor.advance.mark else cursor.mark

/-- The place for a report on entering a list: over blanks, and over its end if it is there. A comma
instead is read too, with the blanks behind it. -/
def enteredMark (cursor : Cursor) : Data.Mark :=
  let cursor := cursor.skipSpace
  if cursor.peek? == some ']' then cursor.advance.mark
  else if cursor.peek? == some ',' then cursor.advance.skipSpace.mark
  else cursor.mark

def scalarAt (scalar : Scalar) (cursor : Cursor) : Outcome :=
  (.scalar (some cursor.mark) scalar, some cursor)

def readWord (scalar : Scalar) : List Char → Cursor → Outcome
  | [], cursor => scalarAt scalar cursor
  | wanted :: word, cursor =>
    match cursor.peek? with
    | none => (.broken (cursor.flawHere .endInValue), none)
    | some c =>
      if c == wanted then readWord scalar word cursor.advance
      else (.broken (cursor.flawAhead .expectedIdent), none)

def readNumber (isNegative : Bool) (cursor : Cursor) : Outcome :=
  match Number.read isNegative cursor with
  | .ok (.whole value, cursor) => scalarAt (.ofInt value) cursor
  | .ok (.float value, cursor) => scalarAt (.other (shownFloat value)) cursor
  | .error fault => (.broken fault, none)

/-- The fault that a list goes on behind a position, or that it is not closed there. -/
def unfinished? (cursor : Cursor) : Option Fault :=
  let cursor := cursor.skipSpace
  match cursor.peek? with
  | some ']' => none
  | some ',' =>
    let cursor := cursor.advance.skipSpace
    some (cursor.flawAhead
      (if cursor.peek? == some ']' then .trailingComma else .trailingCharacters))
  | some _ => some (cursor.flawAhead .trailingCharacters)
  | none => some (cursor.flawAhead .endInList)

/-- The members of a list, the fault that stops it, and the position behind it. -/
abbrev Items := List Item × Option Fault × Option Cursor

def nextItem? (isFirst : Bool) (cursor : Cursor) : Except Fault (Option Cursor) :=
  let cursor := cursor.skipSpace
  match cursor.peek? with
  | none => .error (cursor.flawAhead .endInList)
  | some ']' => .ok none
  | some c =>
    if isFirst then .ok (some cursor)
    else if c == ',' then
      let cursor := cursor.advance.skipSpace
      match cursor.peek? with
      | some ']' => .error (cursor.flawAhead .trailingComma)
      | some _ => .ok (some cursor)
      | none => .error (cursor.flawAhead .endInValue)
    else .error (cursor.flawAhead .expectedListCommaOrEnd)

def readItems (readValue : Cursor → Outcome) :
    (rounds : Nat) → (isFirst : Bool) → Cursor → Items
  | 0, _, cursor => ([], some (cursor.flawAhead .endInList), none)
  | rounds + 1, isFirst, cursor =>
    match nextItem? isFirst cursor with
    | .error fault => ([], some fault, none)
    | .ok none => ([], none, some cursor.skipSpace.advance)
    | .ok (some start) =>
      match readValue start with
      | (node, none) => ([⟨node, none⟩], none, none)
      | (node, some behind) =>
        let (items, stop, final) := readItems readValue rounds false behind
        (⟨node, unfinished? behind⟩ :: items, stop, final)

abbrev Pairs := List Pair × Option Fault × Option Cursor

def nextKey? (isFirst : Bool) (cursor : Cursor) : Except Fault (Option Cursor) :=
  let cursor := cursor.skipSpace
  let key (cursor : Cursor) : Except Fault (Option Cursor) :=
    match cursor.peek? with
    | some '"' => .ok (some cursor.advance)
    | some '\x7d' => .error (cursor.flawAhead .trailingComma)
    | some _ => .error (cursor.flawAhead .keyNotText)
    | none => .error (cursor.flawAhead .endInValue)
  match cursor.peek? with
  | none => .error (cursor.flawAhead .endInObject)
  | some '\x7d' => .ok none
  | some c =>
    if isFirst then key cursor
    else if c == ',' then key cursor.advance.skipSpace
    else .error (cursor.flawAhead .expectedObjectCommaOrEnd)

def valueStart (cursor : Cursor) : Except Fault Cursor :=
  let cursor := cursor.skipSpace
  match cursor.peek? with
  | some ':' => .ok cursor.advance.skipSpace
  | some _ => .error (cursor.flawAhead .expectedColon)
  | none => .error (cursor.flawAhead .endInObject)

def readPairs (size : Nat) (readValue : Cursor → Outcome) :
    (rounds : Nat) → (isFirst : Bool) → Cursor → Pairs
  | 0, _, cursor => ([], some (cursor.flawAhead .endInObject), none)
  | rounds + 1, isFirst, cursor =>
    match nextKey? isFirst cursor with
    | .error fault => ([], some fault, none)
    | .ok none => ([], none, some cursor.skipSpace.advance)
    | .ok (some start) =>
      match Quoted.read size start with
      | .error fault => ([], some fault, none)
      | .ok (key, behindKey) =>
        let keyMark := some (closingMark '\x7d' behindKey)
        let pair (value : Node) (valueMark : Option Data.Mark) : Pair :=
          ⟨.field key, .scalar keyMark (.ofText key), keyMark, value, valueMark⟩
        match valueStart behindKey with
        | .error fault => ([pair (.broken fault) none], none, none)
        | .ok start =>
          match readValue start with
          | (node, none) => ([pair node none], none, none)
          | (node, some behind) =>
            let (pairs, stop, final) := readPairs size readValue rounds false behind
            (pair node (some (closingMark '\x7d' behind)) :: pairs, stop, final)

def readValue (size : Nat) : (depth : Nat) → Cursor → Outcome
  | depth, cursor =>
    match cursor.peek? with
    | none => (.broken (cursor.flawAhead .endInValue), none)
    | some 'n' => readWord (.null "null") ['u', 'l', 'l'] cursor.advance
    | some 't' => readWord (.ofBool true) ['r', 'u', 'e'] cursor.advance
    | some 'f' => readWord (.ofBool false) ['a', 'l', 's', 'e'] cursor.advance
    | some '-' => readNumber true cursor.advance
    | some '"' =>
      match Quoted.read size cursor.advance with
      | .ok (text, cursor) => scalarAt (.ofText text) cursor
      | .error fault => (.broken fault, none)
    | some '[' =>
      match depth with
      | 0 => (.broken (cursor.flawAhead .tooDeep), none)
      | depth + 1 =>
        let inside := cursor.advance
        let (items, stop, final) := readItems (readValue size depth) size true inside
        (.list cursor.mark (enteredMark inside) false items stop, final)
    | some '\x7b' =>
      match depth with
      | 0 => (.broken (cursor.flawAhead .tooDeep), none)
      | depth + 1 =>
        let inside := cursor.advance
        let (pairs, stop, final) := readPairs size (readValue size depth) size true inside
        (.table cursor.mark false pairs stop, final)
    | some c =>
      if Text.isDigit c then readNumber false cursor
      else (.broken (cursor.flawAhead .expectedValue), none)

def maxDepth : Nat := 127

def read (text : String) : Node × Option Fault :=
  let cursor : Cursor := { rest := text.toList }
  let (node, behind) := readValue cursor.rest.length maxDepth cursor.skipSpace
  match behind with
  | none => (node, none)
  | some cursor =>
    let cursor := cursor.skipSpace
    (node, if cursor.rest.isEmpty then none else some (cursor.flawAhead .trailingCharacters))

end PageFeed.Json
