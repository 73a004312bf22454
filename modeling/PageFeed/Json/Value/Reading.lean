import PageFeed.Json.Reading

/-! JSON values read from text, for readers to whom it does not matter where a text goes wrong. The
grammar is the one that structured data is read by. -/

namespace PageFeed.Json.Value

abbrev Outcome := Option (Value × Cursor)

def readWord? (value : Value) (word : String) (cursor : Cursor) : Outcome :=
  if word.toList.isPrefixOf cursor.rest then
    some (value, word.toList.foldl (fun cursor _ => cursor.advance) cursor)
  else none

def readNumber? (isNegative : Bool) (cursor : Cursor) : Outcome :=
  match Number.read isNegative cursor with
  | .ok (.whole value, cursor) => some (.int value, cursor)
  | .ok (.float value, cursor) => some (.float value, cursor)
  | .error _ => none

def readItems? (readValue? : Cursor → Outcome) :
    (rounds : Nat) → (isFirst : Bool) → Cursor → Option (List Value × Cursor)
  | 0, _, _ => none
  | rounds + 1, isFirst, cursor => do
    match ← (nextItem? isFirst cursor).toOption with
    | none => some ([], cursor.skipSpace.advance)
    | some cursor =>
      let (item, cursor) ← readValue? cursor
      let (rest, cursor) ← readItems? readValue? rounds false cursor
      some (item :: rest, cursor)

def readMembers? (size : Nat) (readValue? : Cursor → Outcome) :
    (rounds : Nat) → (isFirst : Bool) → Cursor → Option (List (String × Value) × Cursor)
  | 0, _, _ => none
  | rounds + 1, isFirst, cursor => do
    match ← (nextKey? isFirst cursor).toOption with
    | none => some ([], cursor.skipSpace.advance)
    | some cursor =>
      let (name, cursor) ← (Quoted.read size cursor).toOption
      let (value, cursor) ← readValue? (← (valueStart cursor).toOption)
      let (rest, cursor) ← readMembers? size readValue? rounds false cursor
      some ((name, value) :: rest, cursor)

def readFrom? (size : Nat) : (depth : Nat) → Cursor → Outcome
  | depth, cursor =>
    match cursor.peek?, depth with
    | some 'n', _ => readWord? .null "null" cursor
    | some 't', _ => readWord? (.bool true) "true" cursor
    | some 'f', _ => readWord? (.bool false) "false" cursor
    | some '-', _ => readNumber? true cursor.advance
    | some '"', _ =>
      (Quoted.read size cursor.advance).toOption.map fun (text, cursor) => (.string text, cursor)
    | some '[', depth + 1 =>
      (readItems? (readFrom? size depth) size true cursor.advance).map
        fun (items, cursor) => (.array items, cursor)
    | some '\x7b', depth + 1 =>
      (readMembers? size (readFrom? size depth) size true cursor.advance).map
        fun (members, cursor) => (.object members, cursor)
    | _, _ => readNumber? false cursor

def read? (text : String) : Option Value := do
  let cursor : Cursor := { rest := text.toList }
  let (value, cursor) ← readFrom? cursor.rest.length maxDepth cursor.skipSpace
  if cursor.skipSpace.rest.isEmpty then some value else none

end PageFeed.Json.Value
