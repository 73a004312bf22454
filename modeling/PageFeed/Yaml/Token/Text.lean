import PageFeed.Yaml.Token

/-! Scalars: quoted, plain, and block texts. Line breaks within them are folded: a single one
becomes a space, and of several ones the first is dropped. -/

namespace PageFeed.Yaml

/-- Blanks and line breaks between two words. Blanks count only in front of the first line break. -/
structure Gap where
  blanks : List Char := []
  firstBreak : List Char := []
  moreBreaks : List Char := []
  isBroken : Bool := false
deriving DecidableEq, Repr, Inhabited

namespace Gap

def fold (gap : Gap) : List Char :=
  if gap.isBroken then
    if gap.firstBreak == ['\n'] then
      if gap.moreBreaks.isEmpty then [' '] else gap.moreBreaks
    else gap.firstBreak ++ gap.moreBreaks
  else gap.blanks

/-- Reads a gap. A tab must not stand behind a line break in front of the given column. -/
def read? (least : Nat) : (rounds : Nat) → Gap → Cursor → Option (Gap × Cursor)
  | 0, gap, cursor => some (gap, cursor)
  | rounds + 1, gap, cursor =>
    match cursor.peek? with
    | none => some (gap, cursor)
    | some c =>
      if isBlank c then
        if gap.isBroken && cursor.spot.column < least && c == '\t' then none
        else
          let gap := if gap.isBroken then gap else { gap with blanks := gap.blanks ++ [c] }
          read? least rounds gap cursor.skip
      else if isBreak c then
        let gap := if gap.isBroken then
            { gap with moreBreaks := gap.moreBreaks ++ cursor.lineBreak }
          else { gap with blanks := [], firstBreak := cursor.lineBreak, isBroken := true }
        read? least rounds gap cursor.skipLine
      else some (gap, cursor)

end Gap

def unescape? (c : Char) : Option Char :=
  match c with
  | '0' => some '\x00'
  | 'a' => some '\x07'
  | 'b' => some '\x08'
  | 't' => some '\t'
  | '\t' => some '\t'
  | 'n' => some '\n'
  | 'v' => some '\x0b'
  | 'f' => some '\x0c'
  | 'r' => some '\r'
  | 'e' => some '\x1b'
  | ' ' => some ' '
  | '"' => some '"'
  | '/' => some '/'
  | '\\' => some '\\'
  | 'N' => some '\u0085'
  | '_' => some '\u00a0'
  | 'L' => some '\u2028'
  | 'P' => some '\u2029'
  | _ => none

def codeLength? (c : Char) : Option Nat :=
  match c with
  | 'x' => some 2
  | 'u' => some 4
  | 'U' => some 8
  | _ => none

def readEscape? (cursor : Cursor) : Option (Char × Cursor) := do
  let c ← cursor.peekAt? 1
  let behind := cursor.skipMany 2
  match codeLength? c with
  | none => return (← unescape? c, behind)
  | some length =>
    let digits := behind.rest.take length
    if digits.length < length then none
    let values ← digits.mapM Text.hexDigit?
    let n := values.foldl (fun n digit => 16 * n + digit) 0
    if n.isValidChar then some (Char.ofNat n, behind.skipMany length) else none

/-- Reads the characters of a quoted text up to a gap, an escaped line break, or the closing quote.
The characters read are put in front of `read` in reverse order. -/
def readQuotedWord? (quote : Char) :
    (rounds : Nat) → (read : List Char) → Cursor → Option (List Char × Bool × Cursor)
  | 0, read, cursor => some (read, false, cursor)
  | rounds + 1, read, cursor =>
    match cursor.peek? with
    | none => some (read, false, cursor)
    | some c =>
      if isBlank c || isBreak c then some (read, false, cursor)
      else if c == '\x27' && quote == c && cursor.peekAt? 1 == some c then
        readQuotedWord? quote rounds (c :: read) (cursor.skipMany 2)
      else if c == quote then some (read, false, cursor)
      else if c == '\\' && quote == '"' then
        if (cursor.peekAt? 1).any isBreak then some (read, true, cursor.skip.skipLine)
        else do
          let (escaped, cursor) ← readEscape? cursor
          readQuotedWord? quote rounds (escaped :: read) cursor
      else readQuotedWord? quote rounds (c :: read) cursor.skip

def readQuotedFrom? (quote : Char) :
    (rounds : Nat) → (read : List Char) → Cursor → Option (List Char × Cursor)
  | 0, _, _ => none
  | rounds + 1, read, cursor => do
    if cursor.atDocumentMark || cursor.atEnd then none
    let (read, isBroken, cursor) ← readQuotedWord? quote (rounds + 1) read cursor
    if cursor.startsWith quote then some (read, cursor.skip)
    else
      let (gap, cursor) ← Gap.read? 0 (rounds + 1) { isBroken } cursor
      readQuotedFrom? quote rounds (gap.fold.reverse ++ read) cursor

def readQuoted? (cursor : Cursor) : Option (TokenKind × Cursor) := do
  let quote ← cursor.peek?
  let (read, behind) ← readQuotedFrom? quote (cursor.rest.length + 1) [] cursor.skip
  let style := if quote == '"' then ScalarStyle.doubleQuoted else .singleQuoted
  some (.scalar style (String.ofList read.reverse), behind)

def isFlowMark (c : Char) : Bool := [',', '[', ']', '\x7b', '\x7d'].contains c

def readPlainWord? (inFlow : Bool) :
    (rounds : Nat) → (read : List Char) → Cursor → Option (List Char × Cursor)
  | 0, read, cursor => some (read, cursor)
  | rounds + 1, read, cursor =>
    match cursor.peek? with
    | none => some (read, cursor)
    | some c =>
      if isBlank c || isBreak c then some (read, cursor)
      else if inFlow && c == ':' && (cursor.peekAt? 1).any (fun c => isFlowMark c || c == '?') then
        none
      else if (c == ':' && cursor.wordEndsAt 1) || (inFlow && isFlowMark c) then some (read, cursor)
      else readPlainWord? inFlow rounds (c :: read) cursor.skip

/-- Reads a plain text on, with the gap in front of the position. The result also has the place
where the text ends and whether a line ends behind it. -/
def readPlainFrom? (inFlow : Bool) (least : Nat) :
    (rounds : Nat) → (read : List Char) → Gap → (stop : Spot) → Cursor →
      Option (List Char × Bool × Spot × Cursor)
  | 0, read, gap, stop, cursor => some (read, gap.isBroken, stop, cursor)
  | rounds + 1, read, gap, stop, cursor => do
    if cursor.atDocumentMark || cursor.startsWith '#' then
      some (read, gap.isBroken, stop, cursor)
    else
      let (word, behind) ← readPlainWord? inFlow (rounds + 1) [] cursor
      let hasWord := !word.isEmpty
      let read := if hasWord then word ++ gap.fold.reverse ++ read else read
      let stop := if hasWord then behind.spot else stop
      let gap := if hasWord then {} else gap
      if behind.atBlank || behind.atBreak then
        let (gap, behind) ← Gap.read? least (rounds + 1) gap behind
        if !inFlow && behind.spot.column < least then some (read, gap.isBroken, stop, behind)
        else readPlainFrom? inFlow least rounds read gap stop behind
      else some (read, gap.isBroken, stop, behind)

def readPlain? (inFlow : Bool) (least : Nat) (cursor : Cursor) :
    Option (TokenKind × Bool × Spot × Cursor) := do
  let (read, isBroken, stop, behind) ←
    readPlainFrom? inFlow least (cursor.rest.length + 1) [] {} cursor.spot cursor
  some (.scalar .plain (String.ofList read.reverse), isBroken, stop, behind)

inductive Chomping
  | strip
  | clip
  | keep
deriving DecidableEq, Repr, Inhabited

def readChomping (cursor : Cursor) : Chomping × Cursor :=
  if cursor.startsWith '+' then (.keep, cursor.skip)
  else if cursor.startsWith '-' then (.strip, cursor.skip)
  else (.clip, cursor)

def readIncrement? (cursor : Cursor) : Option (Nat × Cursor) :=
  match cursor.peek?.bind Text.digit? with
  | none => some (0, cursor)
  | some 0 => none
  | some digit => some (digit, cursor.skip)

def readBlockSigns? (cursor : Cursor) : Option (Chomping × Nat × Cursor) :=
  if cursor.startsWith '+' || cursor.startsWith '-' then do
    let (chomping, cursor) := readChomping cursor
    let (increment, cursor) ← readIncrement? cursor
    some (chomping, increment, cursor)
  else do
    let (increment, cursor) ← readIncrement? cursor
    if increment == 0 then some (.clip, 0, cursor)
    else
      let (chomping, cursor) := readChomping cursor
      some (chomping, increment, cursor)

def readEmptyLines? (indent : Nat) :
    (rounds : Nat) → (widest : Nat) → (breaks : List Char) → Cursor →
      Option (Nat × List Char × Cursor)
  | 0, widest, breaks, cursor => some (widest, breaks, cursor)
  | rounds + 1, widest, breaks, cursor =>
    let spaces := (cursor.span (· == ' ')).1.length
    let allowed := if indent == 0 then spaces else min spaces (indent - cursor.spot.column)
    let cursor := cursor.skipMany allowed
    let widest := max widest cursor.spot.column
    if (indent == 0 || cursor.spot.column < indent) && cursor.startsWith '\t' then none
    else if cursor.atBreak then
      readEmptyLines? indent rounds widest (breaks ++ cursor.lineBreak) cursor.skipLine
    else some (widest, breaks, cursor)

structure BlockGap where
  first : List Char := []
  more : List Char := []
  afterBlank : Bool := false
deriving DecidableEq, Repr, Inhabited

/-- What is put in front of a line of a block. Lines that start with a blank are not folded. -/
def BlockGap.fold (gap : BlockGap) (isFolded startsBlank : Bool) : List Char :=
  if isFolded && gap.first == ['\n'] && !gap.afterBlank && !startsBlank then
    if gap.more.isEmpty then [' '] else gap.more
  else gap.first ++ gap.more

def readBlockLines? (isFolded : Bool) (indent : Nat) :
    (rounds : Nat) → (read : List Char) → BlockGap → Cursor →
      Option (List Char × BlockGap × Cursor)
  | 0, read, gap, cursor => some (read, gap, cursor)
  | rounds + 1, read, gap, cursor =>
    if cursor.spot.column == indent && !cursor.atEnd then do
      let startsBlank := cursor.atBlank
      let (line, behind) := cursor.span (!isBreak ·)
      let read := line.reverse ++ (gap.fold isFolded startsBlank).reverse ++ read
      let (_, more, next) ← readEmptyLines? indent (rounds + 1) 0 [] behind.skipLine
      readBlockLines? isFolded indent rounds read ⟨behind.lineBreak, more, startsBlank⟩ next
    else some (read, gap, cursor)

def readBlock? (isFolded : Bool) (outer : Option Nat) (cursor : Cursor) :
    Option (TokenKind × Cursor) := do
  let (chomping, increment, cursor) ← readBlockSigns? cursor.skip
  let cursor := cursor.skipBlanks
  let cursor := if cursor.startsWith '#' then cursor.toLineEnd else cursor
  if !cursor.atLineEnd then none
  let cursor := cursor.skipLine
  let stated := if increment == 0 then 0 else outer.getD 0 + increment
  let (widest, breaks, cursor) ← readEmptyLines? stated (cursor.rest.length + 1) 0 [] cursor
  let least := match outer with
    | some outer => outer + 1
    | none => 1
  let indent := if stated == 0 then max widest least else stated
  let (read, gap, cursor) ←
    readBlockLines? isFolded indent (cursor.rest.length + 1) [] { more := breaks } cursor
  let tail := match chomping with
    | .strip => []
    | .clip => gap.first
    | .keep => gap.first ++ gap.more
  let style := if isFolded then ScalarStyle.folded else .literal
  some (.scalar style (String.ofList (read.reverse ++ tail)), cursor)

end PageFeed.Yaml
