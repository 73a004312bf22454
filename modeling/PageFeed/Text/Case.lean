import PageFeed.Text.Case.Table

/-! Case mapping of whole texts. A character may map to several, and a capital sigma at the end of a
word maps to the final form of the letter. -/

namespace PageFeed.Text.Case

def Run.apply (runs : List Run) (n : Nat) : Option Nat :=
  (runs.find? fun run => run.first ≤ n && n ≤ run.last && (n - run.first) % run.step == 0).map
    fun run => ((n : Int) + run.shift).toNat

/-- Looks a character up among the mappings to several characters first, then among the runs; a
character in neither maps to itself. -/
def mapChar (many : List (Nat × List Nat)) (runs : List Run) (c : Char) : List Char :=
  match many.lookup c.toNat with
  | some codes => codes.map Char.ofNat
  | none =>
    match Run.apply runs c.toNat with
    | some code => [Char.ofNat code]
    | none => [c]

def lowerChar (c : Char) : List Char :=
  if c.toNat < 0x80 then [c.toLower] else mapChar lowerMany lowerRuns c

def upperChar (c : Char) : List Char :=
  if c.toNat < 0x80 then [c.toUpper] else mapChar upperMany upperRuns c

def meetsCased (text : List Char) : Bool :=
  match text.dropWhile ignorable.has with
  | [] => false
  | c :: _ => cased.has c

def lowerAfter (before : List Char) : List Char → List Char
  | [] => []
  | c :: rest =>
    (if c == 'Σ' then
      if meetsCased before && !meetsCased rest then ['ς'] else ['σ']
    else lowerChar c) ++ lowerAfter (c :: before) rest

def lower (text : String) : String := String.ofList (lowerAfter [] text.toList)

def upper (text : String) : String := String.ofList (text.toList.flatMap upperChar)

end PageFeed.Text.Case
