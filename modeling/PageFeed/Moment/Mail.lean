import PageFeed.Moment.Internet

/-! The date form of mail headers, such as `Fri, 01 Mar 2024 09:30:00 -0500 (comment)`. -/

namespace PageFeed.Moment

open Text (number? isBlank)

def someBlanks? (text : List Char) : Option (List Char) :=
  match text with
  | c :: rest => if isBlank c then some (skipBlanks rest) else none
  | [] => none

def zoneNames : List (List Char × Int) :=
  [("gmt".toList, 0), ("ut".toList, 0), ("z".toList, 0), ("edt".toList, -4), ("est".toList, -5),
    ("cdt".toList, -5), ("cst".toList, -6), ("mdt".toList, -6), ("mst".toList, -7),
    ("pdt".toList, -7), ("pst".toList, -8)]

/-- The offset of a named zone in minutes. A single letter other than `j` is a military zone, which
is read as universal time. -/
def namedZone? (name : List Char) : Option Int :=
  let folded := name.map Text.foldAscii
  match zoneNames.lookup folded with
  | some hours => some (60 * hours)
  | none =>
    match folded with
    | [c] => if c = 'j' then none else some 0
    | _ => none

def mailZone? (text : List Char) : Option (Int × List Char) :=
  let name := text.takeWhile Char.isAlpha
  if name.isEmpty then offset? false some text
  else (namedZone? name).map fun offset => (offset, text.drop name.length)

/-- Drops the rest of a comment that is open to a depth; a backslash hides the next character. -/
def closeComment? : Nat → List Char → Option (List Char)
  | _, [] => none
  | depth, ')' :: rest => if depth ≤ 1 then some rest else closeComment? (depth - 1) rest
  | depth, '(' :: rest => closeComment? (depth + 1) rest
  | _, ['\\'] => none
  | depth, '\\' :: _ :: rest => closeComment? depth rest
  | depth, _ :: rest => closeComment? depth rest

def dropComment? (text : List Char) : Option (List Char) :=
  match skipBlanks text with
  | '(' :: rest => closeComment? 1 rest
  | _ => none

theorem length_closeComment? {depth : Nat} {text rest : List Char}
    (closed : closeComment? depth text = some rest) : rest.length < text.length := by
  fun_induction closeComment? depth text <;> grind

theorem length_dropComment? {text rest : List Char} (dropped : dropComment? text = some rest) :
    rest.length < text.length := by
  have skipped : (skipBlanks text).length ≤ text.length :=
    (List.dropWhile_sublist isBlank).length_le
  unfold dropComment? at dropped
  split at dropped
  · next inner same =>
    have shorter := length_closeComment? dropped
    rw [same, List.length_cons] at skipped
    omega
  · cases dropped

def dropComments (text : List Char) : List Char :=
  match _dropped : dropComment? text with
  | some rest => dropComments rest
  | none => text
termination_by text.length
decreasing_by exact length_dropComment? _dropped

/-- A year of two digits counts from 2000 up to 49 and from 1900 after that, a year of three digits
from 1900; a longer one is taken as it is. -/
def mailYear (digits : Nat) (year : Nat) : Nat :=
  if digits = 2 then (if year < 50 then 2000 + year else 1900 + year)
  else if digits = 3 then 1900 + year
  else year

def optionalWeekday? (text : List Char) : Option (Option Nat × List Char) :=
  match shortName? weekdayNames text with
  | some (weekday, rest) => (char? ',' rest).map fun rest => (some weekday, rest)
  | none => some (none, text)

def optionalSecond? (text : List Char) : Option (Option Nat × List Char) :=
  match char? ':' (skipBlanks text) with
  | some rest => (number? 2 (some 2) rest).map fun read => (some read.1, read.2)
  | none => some (none, text)

def mailParts? (text : List Char) : Option Parts := do
  let text := skipBlanks text
  let (weekday, text) ← optionalWeekday? text
  let (day, text) ← number? 1 (some 2) (skipBlanks text)
  let text ← someBlanks? text
  let (month, text) ← shortName? monthNames text
  let text ← someBlanks? text
  let (year, rest) ← number? 2 none text
  let year := mailYear (text.length - rest.length) year
  let text ← someBlanks? rest
  let (hour, text) ← number? 2 (some 2) text
  let text ← char? ':' (skipBlanks text)
  let (minute, text) ← number? 2 (some 2) (skipBlanks text)
  let (second, text) ← optionalSecond? text
  let text ← someBlanks? text
  let (offset, text) ← mailZone? text
  if (dropComments text).isEmpty then
    some {
      year := some year, month := some (month + 1), day := some day, hour := some hour
      minute := some minute, second := second, weekday := weekday, offset := some offset }
  else none

def mail? (text : List Char) : Option Moment := (mailParts? text).bind Parts.moment?

end PageFeed.Moment
