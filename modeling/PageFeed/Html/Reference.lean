import PageFeed.Html.Reference.Table
import PageFeed.Text.Digits

/-! Character references: numbers and names after an ampersand that stand for characters. An
ampersand that begins none stands for itself. -/

namespace PageFeed.Html.Reference

open Text (digit? hexDigit?)

/-- What a reference stands for, the text after it, and whether a number lacked its semicolon. -/
structure Found where
  chars : List Char
  rest : List Char
  unclosed : Bool := false
deriving DecidableEq, Repr

def replacement : Char := '\ufffd'

/-- The characters that the numbers from 0x80 on have in the Windows code page 1252; zero marks a
number that keeps its own meaning. -/
def windowsCodes : List Nat := [
  0x20ac, 0, 0x201a, 0x192, 0x201e, 0x2026, 0x2020, 0x2021, 0x2c6, 0x2030, 0x160, 0x2039, 0x152, 0,
  0x17d, 0, 0, 0x2018, 0x2019, 0x201c, 0x201d, 0x2022, 0x2013, 0x2014, 0x2dc, 0x2122, 0x161, 0x203a,
  0x153, 0, 0x17e, 0x178]

def numbered (n : Nat) : Char :=
  if n = 0 ∨ n > 0x10ffff ∨ (0xd800 ≤ n ∧ n ≤ 0xdfff) then replacement
  else if 0x80 ≤ n ∧ n ≤ 0x9f then
    match windowsCodes[n - 0x80]? with
    | some 0 => Char.ofNat n
    | some code => Char.ofNat code
    | none => Char.ofNat n
  else Char.ofNat n

def digitsFrom (base : Nat) (value? : Char → Option Nat) (read : Option Nat) :
    List Char → Option Nat × List Char
  | [] => (read, [])
  | c :: rest =>
    match value? c with
    | some digit => digitsFrom base value? (some (base * read.getD 0 + digit)) rest
    | none => (read, c :: rest)

def numeric? (base : Nat) (value? : Char → Option Nat) (text : List Char) : Option Found :=
  match digitsFrom base value? none text with
  | (none, _) => none
  | (some n, ';' :: rest) => some ⟨[numbered n], rest, false⟩
  | (some n, rest) => some ⟨[numbered n], rest, true⟩

def entries : List (List Char × List Char) :=
  names.map fun entry => (entry.1.toList, entry.2.map Char.ofNat)

def longer (text : List Char) (best : Option (List Char × List Char))
    (entry : List Char × List Char) : Option (List Char × List Char) :=
  if entry.1.isPrefixOf text then
    match best with
    | some found => if found.1.length < entry.1.length then some entry else best
    | none => some entry
  else best

def longest? (text : List Char) : Option (List Char × List Char) :=
  entries.foldl (longer text) none

/-- In an attribute value, a name without semicolon does not count when the text goes on like a word
or an assignment. -/
def runsOn (inValue : Bool) (name rest : List Char) : Bool :=
  inValue && name.getLast? != some ';' &&
    match rest with
    | c :: _ => c == '=' || c.isAlphanum
    | [] => false

def named? (inValue : Bool) (text : List Char) : Option Found :=
  match longest? text with
  | none => none
  | some (name, chars) =>
    let rest := text.drop name.length
    if runsOn inValue name rest then none else some ⟨chars, rest, false⟩

def read? (inValue : Bool) (text : List Char) : Option Found :=
  match text with
  | '#' :: 'x' :: rest => numeric? 16 hexDigit? rest
  | '#' :: 'X' :: rest => numeric? 16 hexDigit? rest
  | '#' :: rest => numeric? 10 digit? rest
  | c :: _ => if c.isAlphanum then named? inValue text else none
  | [] => none

end PageFeed.Html.Reference
