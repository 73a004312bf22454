import PageFeed.Extraction.Extractor
import PageFeed.Rule.Spec.Loading

/-! Extraction for callers who point at memory and are handed memory back. Rules come as a text that
ends at its first zero, and results and reports go back as such; a page comes with its length. Either
there is a result, or there is a report on what went wrong. -/

namespace PageFeed.Exchange

/-- The memory behind a pointer; a pointer may lead nowhere. -/
abbrev Pointer := Option ByteArray

structure Delivery where
  data : Pointer := none
  report : Pointer := none
deriving Inhabited

inductive Reply
  | data (text : String)
  | failure (report : String)
deriving DecidableEq, Repr, Inhabited

def untilZero (bytes : ByteArray) : ByteArray :=
  ⟨bytes.data.takeWhile (· != 0)⟩

def textAt? (bytes : ByteArray) : Option String := String.fromUTF8? (untilZero bytes)

def terminate? (text : String) : Pointer :=
  if text.toUTF8.data.contains 0 then none else some (text.toUTF8.push 0)

def blankNuls (text : String) : String :=
  String.ofList (text.toList.map fun c => if c == '\x00' then ' ' else c)

namespace Delivery

/-- A delivery with a report. Should it not have a form without zeros, nothing is said. -/
def ofReport (report : String) : Delivery where
  report := some ((terminate? (blankNuls report)).getD ⟨#[0]⟩)

/-- A delivery with a result, which cannot hold a NUL character. -/
def ofData (text : String) : Delivery :=
  match terminate? text with
  | some bytes => { data := some bytes }
  | none => ofReport "Result contains null bytes"

def reply (delivery : Delivery) : Reply :=
  match delivery.data with
  | some bytes => .data ((textAt? bytes).getD "")
  | none => .failure ((delivery.report.bind textAt?).getD "")

end Delivery

/-- The extractor for rules that a caller hands over. Only the processors that are always there can
be named. -/
def readRules (rules : Pointer) : Except String Extractor := do
  match rules with
  | none => throw "Rules JSON is null"
  | some bytes =>
    match textAt? bytes with
    | none => throw "Invalid UTF-8 in rules JSON"
    | some text =>
      let rules ← (RuleSet.ofJson text .builtin).mapError Error.message
      return { rules }

/-- The page that a caller hands over; none is an empty one, and so is one without length. -/
def readPage (page : Pointer) (length : Nat) : Except String String :=
  match page with
  | none => .ok ""
  | some bytes =>
    if length = 0 then .ok ""
    else
      match String.fromUTF8? (bytes.extract 0 length) with
      | some text => .ok text
      | none => .error "Invalid UTF-8 in HTML content"

/-- Rules are read before the page, and both before the work is done. -/
def deliver (work : Extractor → String → Except String String) (page : Pointer) (length : Nat)
    (rules : Pointer) : Delivery :=
  match (do work (← readRules rules) (← readPage page length) : Except String String) with
  | .ok text => .ofData text
  | .error report => .ofReport report

def fieldsToJson (fields : Fields String) : Json.Value :=
  .object (fields.toList.map fun field => (field.1, .string field.2))

def feedToJson (feed : Feed) : Json.Value :=
  .object [("info", fieldsToJson feed.info), ("entries", .array (feed.entries.map fieldsToJson))]

def deliverFeed : (page : Pointer) → (length : Nat) → (rules : Pointer) → Delivery :=
  deliver fun extractor markup => .ok (feedToJson (extractor.extractMarkup markup)).text

def deliverAtom : (page : Pointer) → (length : Nat) → (rules : Pointer) → Delivery :=
  deliver fun extractor markup =>
    (extractor.render (Html.parse markup) (atomRenderer none)).mapError Error.message

def extract (page rules : Option ByteArray) : Reply :=
  (deliverFeed page ((page.map ByteArray.size).getD 0) rules).reply

def renderAtom (page rules : Option ByteArray) : Reply :=
  (deliverAtom page ((page.map ByteArray.size).getD 0) rules).reply

end PageFeed.Exchange
