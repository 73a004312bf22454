import PageFeed.Yaml.Token.Tag
import PageFeed.Yaml.Token.Text

/-! The tokens of a text. Outside of brackets, indentation opens and closes blocks. A key shows only
by the colon behind it, so the tokens that open a key are put in front of it when the colon is
met. -/

namespace PageFeed.Yaml

/-- A place where a key may have started. A needed key is one that nothing else could be. -/
structure KeyStart where
  isNeeded : Bool
  position : Nat
  spot : Spot
deriving DecidableEq, Repr, Inhabited

/-- How far a text has been read. Every open bracket, and what is outside of all of them, has a
place where a key may have started. -/
structure Scan where
  cursor : Cursor
  tokens : Array Token := #[]
  indent : Option Nat := none
  outerIndents : List (Option Nat) := []
  mayStartKey : Bool := true
  keyStart : Option KeyStart := none
  outerKeyStarts : List (Option KeyStart) := []
deriving Inhabited

namespace Scan

def spot (scan : Scan) : Spot := scan.cursor.spot

def inFlow (scan : Scan) : Bool := !scan.outerKeyStarts.isEmpty

def emit (scan : Scan) (kind : TokenKind) (behind : Cursor) : Scan :=
  { scan with tokens := scan.tokens.push ⟨kind, scan.spot, behind.spot⟩, cursor := behind }

def emitMark (scan : Scan) (kind : TokenKind) (length : Nat) : Scan :=
  scan.emit kind (scan.cursor.skipMany length)

def insert (scan : Scan) (position : Nat) (kind : TokenKind) (spot : Spot) : Scan :=
  let token : Token := ⟨kind, spot, spot⟩
  let tokens := scan.tokens.toList
  { scan with tokens := (tokens.take position ++ token :: tokens.drop position).toArray }

def isDeeper (column : Nat) : Option Nat → Bool
  | none => true
  | some indent => indent < column

def openBlock (scan : Scan) (column position : Nat) (kind : TokenKind) (spot : Spot) : Scan :=
  if !scan.inFlow && isDeeper column scan.indent then
    { scan.insert position kind spot with
      indent := some column, outerIndents := scan.indent :: scan.outerIndents }
  else scan

def closeBlocks (column : Option Nat) : (rounds : Nat) → Scan → Scan
  | 0, scan => scan
  | rounds + 1, scan =>
    match scan.indent with
    | none => scan
    | some indent =>
      if !scan.inFlow && column.all (· < indent) then
        closeBlocks column rounds
          { scan with
            tokens := scan.tokens.push ⟨.blockEnd, scan.spot, scan.spot⟩
            indent := (scan.outerIndents.head?).getD none
            outerIndents := scan.outerIndents.drop 1 }
      else scan

def unroll (scan : Scan) (column : Option Nat) : Scan :=
  closeBlocks column (scan.outerIndents.length + 1) scan

def dropKeyStart? (scan : Scan) : Option Scan :=
  if scan.keyStart.any KeyStart.isNeeded then none else some { scan with keyStart := none }

def noteKeyStart? (scan : Scan) : Option Scan :=
  if scan.mayStartKey then do
    let isNeeded := !scan.inFlow && scan.indent == some scan.spot.column
    let scan ← scan.dropKeyStart?
    some { scan with keyStart := some ⟨isNeeded, scan.tokens.size, scan.spot⟩ }
  else some scan

/-- Whether a key that started at a place may no longer end at the position: it has to stay on its
line and within 1024 bytes. -/
def isStale (spot : Spot) (start : KeyStart) : Bool :=
  start.spot.line < spot.line || start.spot.byte + 1024 < spot.byte

def refresh? (spot : Spot) (start : Option KeyStart) : Option (Option KeyStart) :=
  match start with
  | some start =>
    if isStale spot start then if start.isNeeded then none else some none else some (some start)
  | none => some none

def dropStale? (scan : Scan) : Option Scan := do
  let keyStart ← refresh? scan.spot scan.keyStart
  let outerKeyStarts ← scan.outerKeyStarts.mapM (refresh? scan.spot)
  some { scan with keyStart, outerKeyStarts }

/-- Goes to the next token, over blanks, comments and line breaks. Tabs are blanks only where no key
may start. A new line may start a key outside of brackets. -/
def toToken : (rounds : Nat) → Scan → Scan
  | 0, scan => scan
  | rounds + 1, scan =>
    let cursor := scan.cursor
    let cursor :=
      if cursor.spot.column == 0 && cursor.startsWith '\ufeff' then cursor.skip else cursor
    let tabs := scan.inFlow || !scan.mayStartKey
    let (_, cursor) := cursor.span fun c => c == ' ' || (tabs && c == '\t')
    let cursor := if cursor.startsWith '#' then cursor.toLineEnd else cursor
    if cursor.atBreak then
      toToken rounds
        { scan with cursor := cursor.skipLine, mayStartKey := scan.mayStartKey || !scan.inFlow }
    else { scan with cursor }

def finishBlocks? (scan : Scan) : Option Scan := do
  let scan ← (scan.unroll none).dropKeyStart?
  some { scan with mayStartKey := false }

def finish? (scan : Scan) : Option Scan := do
  let spot := scan.spot
  let spot := if spot.column == 0 then spot else { spot with line := spot.line + 1, column := 0 }
  let scan ← finishBlocks? { scan with cursor := ⟨[], spot⟩ }
  some (scan.emitMark .finish 0)

def directive? (scan : Scan) : Option Scan := do
  let scan ← scan.finishBlocks?
  let (kind, stop, behind) ← readDirective? scan.cursor
  some { scan.emit kind stop with cursor := behind }

def documentMark? (scan : Scan) (kind : TokenKind) : Option Scan := do
  some ((← scan.finishBlocks?).emitMark kind 3)

def openFlow? (scan : Scan) (kind : TokenKind) : Option Scan := do
  let scan ← scan.noteKeyStart?
  some ({ scan with
    outerKeyStarts := scan.keyStart :: scan.outerKeyStarts
    keyStart := none
    mayStartKey := true }.emitMark kind 1)

def closeFlow? (scan : Scan) (kind : TokenKind) : Option Scan := do
  let scan ← scan.dropKeyStart?
  let scan := match scan.outerKeyStarts with
    | outer :: rest => { scan with keyStart := outer, outerKeyStarts := rest }
    | [] => scan
  some ({ scan with mayStartKey := false }.emitMark kind 1)

def flowEntry? (scan : Scan) : Option Scan := do
  some ({ ← scan.dropKeyStart? with mayStartKey := true }.emitMark .flowEntry 1)

def blockEntry? (scan : Scan) : Option Scan := do
  if !scan.inFlow && !scan.mayStartKey then none
  let scan := scan.openBlock scan.spot.column scan.tokens.size .blockSequence scan.spot
  some ({ ← scan.dropKeyStart? with mayStartKey := true }.emitMark .blockEntry 1)

def key? (scan : Scan) : Option Scan := do
  if !scan.inFlow && !scan.mayStartKey then none
  let scan := scan.openBlock scan.spot.column scan.tokens.size .blockMapping scan.spot
  some ({ ← scan.dropKeyStart? with mayStartKey := !scan.inFlow }.emitMark .key 1)

def value? (scan : Scan) : Option Scan :=
  match scan.keyStart with
  | some start =>
    let scan := scan.insert start.position .key start.spot
    let scan := scan.openBlock start.spot.column start.position .blockMapping start.spot
    some ({ scan with keyStart := none, mayStartKey := false }.emitMark .value 1)
  | none => do
    if !scan.inFlow && !scan.mayStartKey then none
    let scan := scan.openBlock scan.spot.column scan.tokens.size .blockMapping scan.spot
    some ({ scan with mayStartKey := !scan.inFlow }.emitMark .value 1)

def name? (scan : Scan) (kind : String → TokenKind) : Option Scan := do
  let scan ← scan.noteKeyStart?
  let (name, behind) ← readName? scan.cursor
  some ({ scan with mayStartKey := false }.emit (kind name) behind)

def tag? (scan : Scan) : Option Scan := do
  let scan ← scan.noteKeyStart?
  let (kind, behind) ← readTag? scan.inFlow scan.cursor
  some ({ scan with mayStartKey := false }.emit kind behind)

def block? (scan : Scan) (isFolded : Bool) : Option Scan := do
  let scan ← scan.dropKeyStart?
  let (kind, behind) ← readBlock? isFolded scan.indent scan.cursor
  some ({ scan with mayStartKey := true }.emit kind behind)

def quoted? (scan : Scan) : Option Scan := do
  let scan ← scan.noteKeyStart?
  let (kind, behind) ← readQuoted? scan.cursor
  some ({ scan with mayStartKey := false }.emit kind behind)

def plain? (scan : Scan) : Option Scan := do
  let scan ← scan.noteKeyStart?
  let least := match scan.indent with
    | some indent => indent + 1
    | none => 0
  let (kind, isBroken, stop, behind) ← readPlain? scan.inFlow least scan.cursor
  some { scan with
    tokens := scan.tokens.push ⟨kind, scan.spot, stop⟩
    cursor := behind
    mayStartKey := isBroken }

def startsPlain (scan : Scan) (c : Char) : Bool :=
  let special := "-?:,[]{}#&*!|>'\"%@`".toList
  let next := scan.cursor.peekAt? 1
  !(isBlank c || isBreak c || special.contains c) ||
    (c == '-' && !next.any isBlank) ||
    (!scan.inFlow && (c == '?' || c == ':') && !scan.cursor.wordEndsAt 1)

def token? (scan : Scan) (c : Char) : Option Scan :=
  let endsWord := scan.cursor.wordEndsAt 1
  let isMark := scan.inFlow || endsWord
  match c with
  | '[' => scan.openFlow? .flowSequence
  | '\x7b' => scan.openFlow? .flowMapping
  | ']' => scan.closeFlow? .flowSequenceEnd
  | '\x7d' => scan.closeFlow? .flowMappingEnd
  | ',' => scan.flowEntry?
  | '*' => scan.name? .alias
  | '&' => scan.name? .anchor
  | '!' => scan.tag?
  | '\x27' => scan.quoted?
  | '"' => scan.quoted?
  | _ =>
    if c == '-' && endsWord then scan.blockEntry?
    else if c == '?' && isMark then scan.key?
    else if c == ':' && isMark then scan.value?
    else if c == '|' && !scan.inFlow then scan.block? false
    else if c == '>' && !scan.inFlow then scan.block? true
    else if scan.startsPlain c then scan.plain?
    else none

def next? (scan : Scan) : Option Scan := do
  let scan := toToken (scan.cursor.rest.length + 1) scan
  let scan ← scan.dropStale?
  let scan := scan.unroll (some scan.spot.column)
  match scan.cursor.peek? with
  | none => scan.finish?
  | some c =>
    if scan.spot.column == 0 && c == '%' then scan.directive?
    else if scan.cursor.atDocumentMark then
      scan.documentMark? (if c == '-' then .documentStart else .documentEnd)
    else scan.token? c

def run? : (rounds : Nat) → Scan → Option (List Token)
  | 0, _ => none
  | rounds + 1, scan => do
    let scan ← scan.next?
    if scan.tokens.back?.any (·.kind == .finish) then some scan.tokens.toList
    else run? rounds scan

end Scan

def tokens? (text : String) : Option (List Token) :=
  let chars := text.toList
  if chars.all isAllowed then
    Scan.run? (chars.length + 2) { cursor := { rest := chars } }
  else none

end PageFeed.Yaml
