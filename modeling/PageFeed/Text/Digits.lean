/-! Decimal digits at the head of a text, and numbers written with a fixed number of places. -/

namespace PageFeed.Text

def digit? (c : Char) : Option Nat :=
  if '0' ≤ c ∧ c ≤ '9' then some (c.toNat - '0'.toNat) else none

def isDigit (c : Char) : Bool := (digit? c).isSome

def hexDigit? (c : Char) : Option Nat :=
  if '0' ≤ c ∧ c ≤ '9' then some (c.toNat - '0'.toNat)
  else if 'a' ≤ c ∧ c ≤ 'f' then some (c.toNat - 'a'.toNat + 10)
  else if 'A' ≤ c ∧ c ≤ 'F' then some (c.toNat - 'A'.toNat + 10)
  else none

def decimalFrom (read : Nat) (digits : List Char) : Nat :=
  digits.foldl (fun n c => 10 * n + (digit? c).getD 0) read

def decimal (digits : List Char) : Nat := decimalFrom 0 digits

/-- Splits off the leading digits, at most `most` of them when a limit is given. -/
def spanDigits (most : Option Nat) (text : List Char) : List Char × List Char :=
  let digits := text.takeWhile isDigit
  match most with
  | none => (digits, text.drop digits.length)
  | some m => (digits.take m, text.drop (min m digits.length))

def number? (least : Nat) (most : Option Nat) (text : List Char) : Option (Nat × List Char) :=
  match spanDigits most text with
  | (digits, rest) => if digits.length < least then none else some (decimal digits, rest)

def padded (width n : Nat) : List Char :=
  let digits := Nat.toDigits 10 n
  List.replicate (width - digits.length) '0' ++ digits

def foldAscii (c : Char) : Char := c.toLower

def dropWord? : List Char → List Char → Option (List Char)
  | [], text => some text
  | _ :: _, [] => none
  | w :: word, c :: text => if foldAscii w = foldAscii c then dropWord? word text else none

end PageFeed.Text
