import PageFeed.Decimal.Notation
import PageFeed.Selector.Basic
import PageFeed.Text.Outline

/-! The tokens of a selector's text, and how they appear in messages. -/

namespace PageFeed.Selector

/-- A number as it is written. The fraction and the exponent are empty when they are not written. -/
structure Numeral where
  sign : Option Char
  whole : List Char
  fraction : List Char
  exponentSign : Option Char
  exponent : List Char
deriving DecidableEq, Repr, Inhabited

namespace Numeral

def clamp (n : Int) : Int := max (-2147483648) (min 2147483647 n)

def int? (numeral : Numeral) : Option Int :=
  if numeral.fraction.isEmpty && numeral.exponent.isEmpty then
    let size : Int := Text.decimal numeral.whole
    some (clamp (if numeral.sign == some '-' then -size else size))
  else none

def digitValue (c : Char) : Float := Float.ofNat ((Text.digit? c).getD 0)

def wholeValue (digits : List Char) : Float :=
  digits.foldl (fun value c => value * 10 + digitValue c) 0

def fractionValue (digits : List Char) : Float :=
  (digits.foldl (fun (value, factor) c => (value + digitValue c * factor, factor * 0.1))
    ((0, 0.1) : Float × Float)).1

def value (numeral : Numeral) : Float :=
  let size := wholeValue numeral.whole + fractionValue numeral.fraction
  let signed := if numeral.sign == some '-' then -1 * size else size
  if numeral.exponent.isEmpty then signed
  else
    let exponent := wholeValue numeral.exponent
    signed * Float.pow 10 (if numeral.exponentSign == some '-' then -1 * exponent else exponent)

end Numeral

inductive Unit
  | none
  | percent
  | named (name : String)
deriving DecidableEq, Repr, Inhabited

inductive Bracket
  | round
  | square
  | curly
deriving DecidableEq, Repr, Inhabited

/-- A token of a selector. An `opener` with a name is the head of a function. -/
inductive Token
  | ident (name : String)
  | atKeyword (name : String)
  | hash (name : String) (isIdent : Bool)
  | string (text : String)
  | badString (text : String)
  | url (text : String)
  | badUrl (text : String)
  | delim (c : Char)
  | number (numeral : Numeral) (unit : Unit)
  | blank (text : String)
  | comment (text : String)
  | colon
  | semicolon
  | comma
  | compare (comparison : Comparison)
  | commentOpen
  | commentClose
  | opener (bracket : Bracket)
  | function (name : String)
  | closer (bracket : Bracket)
deriving DecidableEq, Repr, Inhabited

namespace Token

def opens? : Token → Option Bracket
  | opener bracket => some bracket
  | function _ => some .round
  | _ => none

def isBad : Token → Bool
  | badString _ => true
  | badUrl _ => true
  | closer _ => true
  | _ => false

def isSpace : Token → Bool
  | blank _ => true
  | comment _ => true
  | _ => false

end Token

namespace Bracket

def left : Bracket → String
  | round => "("
  | square => "["
  | curly => "\x7b"

def right : Bracket → String
  | round => ")"
  | square => "]"
  | curly => "\x7d"

def title : Bracket → String
  | round => "Parenthesis"
  | square => "SquareBracket"
  | curly => "CurlyBracket"

end Bracket

namespace Token

/-- How a number is shown. A number that is written with a sign shows one. -/
def showNumeral (numeral : Numeral) (value : Float) : String :=
  let text := String.ofList (Decimal.Notation.plain.write (Decimal.ofFloat32 value.toFloat32))
  if numeral.sign.isNone then text
  else if value.toFloat32 > 0 then "+" ++ text
  else "-" ++ text

def display : Token → String
  | ident name => name
  | atKeyword name => "@" ++ name
  | hash name _ => "#" ++ name
  | string text => "\"" ++ text ++ "\""
  | badString text => "<Bad String " ++ Text.Quoted.quote text ++ ">"
  | url text => text
  | badUrl text => "<Bad URL " ++ Text.Quoted.quote text ++ ">"
  | delim c => c.toString
  | number numeral .none => showNumeral numeral numeral.value
  | number numeral .percent => showNumeral numeral (numeral.value / 100) ++ "%"
  | number numeral (.named name) => showNumeral numeral numeral.value ++ name
  | blank _ => " "
  | comment text => "/* " ++ text ++ " */"
  | colon => ":"
  | semicolon => ";"
  | comma => ","
  | compare comparison => comparison.sign
  | commentOpen => "<!--"
  | commentClose => "-->"
  | opener bracket => "<" ++ bracket.left
  | function name => name ++ "()"
  | closer bracket => "<" ++ bracket.right

def outlineValue (value : Float) : Text.Outline :=
  .leaf (String.ofList (Decimal.Notation.pointed.write (Decimal.ofFloat32 value.toFloat32)))

def outlineNumeral (numeral : Numeral) (label : String) (value : Float) :
    List (String × Text.Outline) := [
  ("has_sign", .truth numeral.sign.isSome), (label, outlineValue value),
  ("int_value", .optional (numeral.int?.map fun n => .leaf (toString n)))]

def quoteChar (c : Char) : String :=
  if c == '"' then "'\"'" else
    "'" ++ String.ofList (if c == '\x27' then ['\\', c] else Text.Quoted.escape c) ++ "'"

def outline : Token → Text.Outline
  | ident name => .applied "Ident" (.text name)
  | atKeyword name => .applied "AtKeyword" (.text name)
  | hash name false => .applied "Hash" (.text name)
  | hash name true => .applied "IDHash" (.text name)
  | string text => .applied "QuotedString" (.text text)
  | badString text => .applied "BadString" (.text text)
  | url text => .applied "UnquotedUrl" (.text text)
  | badUrl text => .applied "BadUrl" (.text text)
  | delim c => .applied "Delim" (.leaf (quoteChar c))
  | number numeral .none => .record "Number" (outlineNumeral numeral "value" numeral.value)
  | number numeral .percent =>
    .record "Percentage" (outlineNumeral numeral "unit_value" (numeral.value / 100))
  | number numeral (.named name) =>
    .record "Dimension" (outlineNumeral numeral "value" numeral.value ++ [("unit", .text name)])
  | blank text => .applied "WhiteSpace" (.text text)
  | comment text => .applied "Comment" (.text text)
  | colon => .leaf "Colon"
  | semicolon => .leaf "Semicolon"
  | comma => .leaf "Comma"
  | compare comparison => .leaf comparison.title
  | commentOpen => .leaf "CDO"
  | commentClose => .leaf "CDC"
  | opener bracket => .leaf (bracket.title ++ "Block")
  | function name => .applied "Function" (.text name)
  | closer bracket => .leaf ("Close" ++ bracket.title)

end Token

end PageFeed.Selector
