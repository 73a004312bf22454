import PageFeed.Text.Digits

/-! English names of months and weekdays. Every name has a short form of three letters, and no
letter's case matters when a name is read. -/

namespace PageFeed.Moment

open Text (dropWord?)

/-- A short name and the letters that complete it. -/
abbrev Name := List Char × List Char

def monthNames : List Name :=
  [("Jan".toList, "uary".toList), ("Feb".toList, "ruary".toList), ("Mar".toList, "ch".toList),
    ("Apr".toList, "il".toList), ("May".toList, []), ("Jun".toList, "e".toList),
    ("Jul".toList, "y".toList), ("Aug".toList, "ust".toList), ("Sep".toList, "tember".toList),
    ("Oct".toList, "ober".toList), ("Nov".toList, "ember".toList), ("Dec".toList, "ember".toList)]

def weekdayNames : List Name :=
  [("Mon".toList, "day".toList), ("Tue".toList, "sday".toList), ("Wed".toList, "nesday".toList),
    ("Thu".toList, "rsday".toList), ("Fri".toList, "day".toList), ("Sat".toList, "urday".toList),
    ("Sun".toList, "day".toList)]

def shortName? : List Name → List Char → Option (Nat × List Char)
  | [], _ => none
  | name :: more, text =>
    match dropWord? name.1 text with
    | some rest => some (0, rest)
    | none => (shortName? more text).map fun found => (found.1 + 1, found.2)

def longName? (names : List Name) (text : List Char) : Option (Nat × List Char) :=
  match shortName? names text with
  | none => none
  | some (place, rest) =>
    match names[place]? with
    | none => none
    | some name => some (place, (dropWord? name.2 rest).getD rest)

end PageFeed.Moment
