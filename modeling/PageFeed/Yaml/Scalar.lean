import PageFeed.Data.Node
import PageFeed.Decimal.Notation
import PageFeed.Yaml.Tree.Basic

/-! What scalars mean. A plain scalar without a tag may be null, a truth value or a number; any
other is text, unless a tag says what it is. -/

namespace PageFeed.Yaml

open Data (Cause Scalar ScalarValue)

def isNull (text : String) : Bool := ["null", "Null", "NULL", "~"].contains text

def truth? (text : String) : Option Bool :=
  if ["true", "True", "TRUE"].contains text then some true
  else if ["false", "False", "FALSE"].contains text then some false
  else none

/-- Whether a text has digits only and starts with a needless zero; it is no number then. -/
def isPaddedDigits (text : List Char) : Bool :=
  let digits := match text with
    | '-' :: rest => rest
    | '+' :: rest => rest
    | _ => text
  match digits with
  | '0' :: d :: rest => (d :: rest).all Text.isDigit
  | _ => false

def numberIn? (base : Nat) (digits : List Char) : Option Nat :=
  if digits.isEmpty then none
  else digits.foldlM (fun n c =>
    match Text.hexDigit? c with
    | some digit => if digit < base then some (base * n + digit) else none
    | none => none) 0

def sizeOf? (text whole : List Char) : Option Nat :=
  match whole with
  | '0' :: 'x' :: digits => numberIn? 16 digits
  | '0' :: 'o' :: digits => numberIn? 8 digits
  | '0' :: 'b' :: digits => numberIn? 2 digits
  | _ => if isPaddedDigits text then none else numberIn? 10 whole

def int? (text : List Char) : Option Int :=
  match text with
  | '-' :: whole => (sizeOf? text whole).map fun (n : Nat) => -n
  | '+' :: whole => (sizeOf? text whole).map fun (n : Nat) => n
  | _ => (sizeOf? text text).map fun (n : Nat) => n

/-- The floating-point number `digits · 10 ^ exponent`. Numbers far out of range are not
computed. -/
def scaled? (digits : List Char) (exponent : Int) : Option Float :=
  let digits := digits.dropWhile (· == '0')
  let size : Int := digits.length + exponent
  if digits.isEmpty || size < -400 then some 0
  else if 400 < size then none
  else
    let value := Float.ofScientific (Text.decimal digits) (exponent < 0) exponent.natAbs
    if value.isInf then none else some value

def exponent? (text : List Char) : Option Int :=
  match text with
  | [] => some 0
  | mark :: rest =>
    if mark == 'e' || mark == 'E' then
      let (isNegative, digits) := match rest with
        | '-' :: digits => (true, digits)
        | '+' :: digits => (false, digits)
        | _ => (false, rest)
      if digits.isEmpty || !digits.all Text.isDigit then none
      else
        let size : Int := Text.decimal digits
        some (if isNegative then -size else size)
    else none

def decimal? (text : List Char) : Option Float := do
  let whole := text.takeWhile Text.isDigit
  let rest := text.drop whole.length
  let fraction := match rest with
    | '.' :: rest => rest.takeWhile Text.isDigit
    | _ => []
  let rest := match rest with
    | '.' :: rest => rest.drop fraction.length
    | _ => rest
  if whole.isEmpty && fraction.isEmpty then none
  let exponent ← exponent? rest
  scaled? (whole ++ fraction) (exponent - fraction.length)

def isInfinity (text : List Char) : Bool :=
  [".inf", ".Inf", ".INF"].contains (String.ofList text)

def float? (text : List Char) : Option Decimal.Reading :=
  let (sign, size) := match text with
    | '+' :: rest => (some '+', rest)
    | '-' :: rest => (some '-', rest)
    | _ => (none, text)
  if isInfinity size then some (.infinite (sign == some '-'))
  else if sign.isNone && [".nan", ".NaN", ".NAN"].contains (String.ofList size) then some .notNumber
  else (decimal? size).map fun value =>
    Decimal.ofFloat (if sign == some '-' then -value else value)

def shownFloat (number : Decimal.Reading) : String :=
  let style : Decimal.Notation := { Decimal.Notation.plain with pointZero := true }
  "floating point `" ++ String.ofList (style.write number) ++ "`"

def twoTo (exponent : Nat) : Int := Nat.pow 2 exponent

def wholeValue (isSigned : Bool) (value : Int) : Option (ScalarValue × String) :=
  let shown := Data.shownWhole value
  if !isSigned && value < twoTo 64 then some (.whole value.toNat, shown)
  else if isSigned && -twoTo 63 ≤ value then some (.other shown, shown)
  else if !isSigned && value < twoTo 128 then
    some (.wide (shown ++ " as u128"), shown ++ " as u128")
  else if isSigned && -twoTo 127 ≤ value then
    some (.wide (shown ++ " as i128"), shown ++ " as i128")
  else none

def readWhole? (text : String) : Option (ScalarValue × String) :=
  (int? text.toList).bind (wholeValue (text.startsWith "-"))

def readPlain (text : String) : ScalarValue × String :=
  let same (shown : String) := (ScalarValue.other shown, shown)
  if text.isEmpty || isNull text then same "unit value"
  else match truth? text with
    | some value => same (Data.shownTruth value)
    | none =>
      match readWhole? text with
      | some read => read
      | none =>
        let number := if isPaddedDigits text.toList then none else float? text.toList
        match number with
        | some number => same (shownFloat number)
        | none => (.text text, Data.shownText text)

def coreTag (name : String) : TagBytes := .ofText ("tag:yaml.org,2002:" ++ name)

def mistagged (text expected : String) : ScalarValue × String :=
  (.refused (.wrongValue (Data.shownText text) expected), Data.shownText text)

def isLocal (tag : TagBytes) : Bool := tag.head? == some '!'.toUInt8

/-- What a text with a tag is where anything may stand, and how it is shown. Tags of the document's
own do not say how a plain text is to be read. -/
def readTagged (isPlain : Bool) (tag : TagBytes) (text : String) : ScalarValue × String :=
  let same (shown : String) := (ScalarValue.other shown, shown)
  if tag == coreTag "bool" then
    ((truth? text).map fun value => same (Data.shownTruth value)).getD (mistagged text "a boolean")
  else if tag == coreTag "int" then (readWhole? text).getD (mistagged text "an integer")
  else if tag == coreTag "float" then
    ((float? text.toList).map fun number => same (shownFloat number)).getD
      (mistagged text "a float")
  else if tag == coreTag "null" then
    if isNull text then same "unit value" else mistagged text "null"
  else if isPlain && isLocal tag then readPlain text
  else (.text text, Data.shownText text)

/-- Whether a tag marks an alternative of some type, which a tag of the document's own does when it
is text. -/
def isVariant (properties : Properties) : Bool :=
  properties.tag.any fun tag => isLocal tag && (String.fromUTF8? ⟨tag.toArray⟩).isSome

def readScalar (properties : Properties) (style : ScalarStyle) (text : String) : Scalar :=
  let isPlain := style == .plain
  let (value, shown) := match properties.tag with
    | none => if isPlain then readPlain text else (.text text, Data.shownText text)
    | some tag =>
      let (value, shown) := readTagged isPlain tag text
      (if isVariant properties then .variant else value, shown)
  { value, shown
    text? := some text
    truth? := if isPlain || (style == .literal && properties.tag == some (coreTag "bool")) then
        truth? text else none
    presence := if !isPlain then .present else match properties.tag with
      | none => if text.isEmpty || isNull text then .absent else .present
      | some tag =>
        if tag != coreTag "null" then .present
        else if isNull text then .absent
        else .refused (.wrongValue (Data.shownText text) "null")
    isBlank := isPlain && text.isEmpty }

end PageFeed.Yaml
