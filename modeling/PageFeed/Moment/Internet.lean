import PageFeed.Moment.Layout

/-! The date form of internet timestamps, such as `2024-03-01T09:30:00.25Z`. -/

namespace PageFeed.Moment

open Text (number? isDigit)

def char? (c : Char) : List Char → Option (List Char)
  | d :: rest => if d = c then some rest else none
  | [] => none

/-- The fraction of a second in nanoseconds; places after the ninth are read and dropped. -/
def fraction? (text : List Char) : Option (Nat × List Char) :=
  let digits := text.takeWhile isDigit
  if digits.isEmpty then none
  else
    let places := digits.take 9
    some (Text.decimal places * Nat.pow 10 (9 - places.length), text.drop digits.length)

def zone? (text : List Char) : Option (Int × List Char) :=
  match text with
  | 'Z' :: rest => some (0, rest)
  | 'z' :: rest => some (0, rest)
  | _ => offset? true (char? ':') text

def dateEnd? : List Char → Option (List Char)
  | 'T' :: rest => some rest
  | 't' :: rest => some rest
  | ' ' :: rest => some rest
  | _ => none

def optionalFraction? : List Char → Option (Nat × List Char)
  | '.' :: rest => fraction? rest
  | text => some (0, text)

def internetParts? (text : List Char) : Option Parts := do
  let (year, text) ← number? 4 (some 4) text
  let text ← char? '-' text
  let (month, text) ← number? 2 (some 2) text
  let text ← char? '-' text
  let (day, text) ← number? 2 (some 2) text
  let text ← dateEnd? text
  let (hour, text) ← number? 2 (some 2) text
  let text ← char? ':' text
  let (minute, text) ← number? 2 (some 2) text
  let text ← char? ':' text
  let (second, text) ← number? 2 (some 2) text
  let (nanosecond, text) ← optionalFraction? text
  let (offset, text) ← zone? text
  if text.isEmpty then
    some {
      year := some year, month := some month, day := some day, hour := some hour
      minute := some minute, second := some second, nanosecond := some nanosecond
      offset := some offset }
  else none

def internet? (text : List Char) : Option Moment := (internetParts? text).bind Parts.moment?

end PageFeed.Moment
