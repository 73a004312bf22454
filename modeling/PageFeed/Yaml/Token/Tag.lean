import PageFeed.Yaml.Token

/-! Tokens that name things: anchors, aliases, tags, and directives. Nothing is read from a text
that goes wrong. -/

namespace PageFeed.Yaml

def endsName (c : Char) : Bool :=
  isBlank c || isBreak c || ['?', ':', ',', ']', '\x7d', '%', '@', '\x60'].contains c

def readName? (cursor : Cursor) : Option (String × Cursor) :=
  let (name, behind) := (cursor.skip).span isWordChar
  if !name.isEmpty && behind.peek?.all endsName then some (String.ofList name, behind) else none

def isTagChar (isVerbatim : Bool) (c : Char) : Bool :=
  isWordChar c || ";/?:@&=+$.!~*\x27()%".toList.contains c ||
    (isVerbatim && [',', '[', ']'].contains c)

def leadWidth? (byte : UInt8) : Option Nat :=
  if byte < 0x80 then some 1
  else if byte / 32 == 6 then some 2
  else if byte / 16 == 14 then some 3
  else if byte / 8 == 30 then some 4
  else none

def readByte? (cursor : Cursor) : Option (UInt8 × Cursor) :=
  match cursor.rest with
  | '%' :: high :: low :: _ =>
    match Text.hexDigit? high, Text.hexDigit? low with
    | some high, some low => some (UInt8.ofNat (16 * high + low), cursor.skipMany 3)
    | _, _ => none
  | _ => none

def readTrail? : (count : Nat) → Cursor → Option (TagBytes × Cursor)
  | 0, cursor => some ([], cursor)
  | count + 1, cursor => do
    let (byte, cursor) ← readByte? cursor
    if byte / 64 != 2 then none
    else
      let (rest, cursor) ← readTrail? count cursor
      some (byte :: rest, cursor)

/-- Reads a character that is written byte by byte. The first byte says how many there are; whether
they are the shortest form of a character does not matter. -/
def readBytes? (cursor : Cursor) : Option (TagBytes × Cursor) := do
  let (byte, cursor) ← readByte? cursor
  let width ← leadWidth? byte
  let (rest, cursor) ← readTrail? (width - 1) cursor
  return (byte :: rest, cursor)

def readTagChars? (isVerbatim : Bool) : (rounds : Nat) → Cursor → Option (TagBytes × Cursor)
  | 0, cursor => some ([], cursor)
  | rounds + 1, cursor =>
    match cursor.peek? with
    | none => some ([], cursor)
    | some c =>
      if isTagChar isVerbatim c then do
        let (bytes, cursor) ←
          if c == '%' then readBytes? cursor else some ([c.toUInt8], cursor.skip)
        let (rest, cursor) ← readTagChars? isVerbatim rounds cursor
        return (bytes ++ rest, cursor)
      else some ([], cursor)

/-- Reads the rest of a tag whose first characters have been read; there has to be something. What
stands behind a zero does not count. -/
def readTagRest? (isVerbatim : Bool) (head : List Char) (cursor : Cursor) :
    Option (TagBytes × Cursor) := do
  let (rest, cursor) ← readTagChars? isVerbatim cursor.rest.length cursor
  if head.isEmpty && rest.isEmpty then none
  else some (((head.drop 1).map Char.toUInt8 ++ rest).takeWhile (· != 0), cursor)

def readHandle? (cursor : Cursor) : Option (List Char × Cursor) :=
  if cursor.startsWith '!' then
    let (name, cursor) := cursor.skip.span isWordChar
    if cursor.startsWith '!' then some ('!' :: name ++ ['!'], cursor.skip)
    else some ('!' :: name, cursor)
  else none

def isClosedHandle (handle : List Char) : Bool := 2 ≤ handle.length && handle.getLast? == some '!'

/-- Reads the handle and the rest of a tag. A lone exclamation mark is a tag of its own. -/
def readTagParts? (cursor : Cursor) : Option (List Char × TagBytes × Cursor) := do
  if cursor.peekAt? 1 == some '<' then
    let (rest, cursor) ← readTagRest? true [] (cursor.skipMany 2)
    if cursor.startsWith '>' then some ([], rest, cursor.skip) else none
  else
    let (handle, cursor) ← readHandle? cursor
    if isClosedHandle handle then
      let (rest, cursor) ← readTagRest? false [] cursor
      some (handle, rest, cursor)
    else
      let (rest, cursor) ← readTagRest? false handle cursor
      if rest.isEmpty then some ([], .ofText "!", cursor) else some (['!'], rest, cursor)

def readTag? (inFlow : Bool) (cursor : Cursor) : Option (TokenKind × Cursor) := do
  let (handle, rest, cursor) ← readTagParts? cursor
  if cursor.wordEndsAt 0 || (inFlow && cursor.startsWith ',') then
    some (.tag (String.ofList handle) rest, cursor)
  else none

def readVersionNumber? (cursor : Cursor) : Option (Nat × Cursor) :=
  let (digits, cursor) := cursor.span Text.isDigit
  if digits.isEmpty || 9 < digits.length then none else some (Text.decimal digits, cursor)

def readVersion? (cursor : Cursor) : Option (TokenKind × Cursor) := do
  let (major, cursor) ← readVersionNumber? cursor.skipBlanks
  if cursor.startsWith '.' then
    let (minor, cursor) ← readVersionNumber? cursor.skip
    some (.version major minor, cursor)
  else none

def readTagDirective? (cursor : Cursor) : Option (TokenKind × Cursor) := do
  let (handle, cursor) ← readHandle? cursor.skipBlanks
  if (handle == ['!'] || isClosedHandle handle) && cursor.atBlank then
    let (lead, cursor) ← readTagRest? true [] cursor.skipBlanks
    if cursor.wordEndsAt 0 then
      some (.tagHandle (String.ofList handle) lead, cursor)
    else none
  else none

def readDirective? (cursor : Cursor) : Option (TokenKind × Cursor × Cursor) := do
  let (name, cursor) := cursor.skip.span isWordChar
  if name.isEmpty || !cursor.wordEndsAt 0 then none
  let (kind, cursor) ←
    if name == "YAML".toList then readVersion? cursor
    else if name == "TAG".toList then readTagDirective? cursor
    else none
  let behind := cursor.skipBlanks
  let behind := if behind.startsWith '#' then behind.toLineEnd else behind
  if behind.atLineEnd then some (kind, cursor, behind.skipLine) else none

end PageFeed.Yaml
