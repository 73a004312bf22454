import PageFeed.Data.Node
import PageFeed.Decimal.Notation
import PageFeed.Fields

/-! JSON values, how they are written, and what they are as structured data. -/

namespace PageFeed.Json

/-- A JSON value. The members of an object are in the order in which they are written. -/
inductive Value
  | null
  | bool (value : Bool)
  | int (value : Int)
  | float (value : Float)
  | string (text : String)
  | array (items : List Value)
  | object (members : List (String × Value))
deriving Inhabited

/-- Numbers with a point are positional from `10 ^ -5` to below `10 ^ 16`; exponents have a sign,
and of two equally near decimals the even one is written. -/
def numberStyle : Decimal.Notation := ⟨fun lead => -5 ≤ lead && lead < 16, true, true, .even⟩

def writeFloat (value : Float) : String :=
  String.ofList (numberStyle.write (Decimal.ofFloat value))

def shownFloat (value : Float) : String := "floating point `" ++ writeFloat value ++ "`"

def escape (c : Char) : List Char :=
  match c with
  | '"' => ['\\', '"']
  | '\\' => ['\\', '\\']
  | '\x08' => ['\\', 'b']
  | '\x0c' => ['\\', 'f']
  | '\n' => ['\\', 'n']
  | '\r' => ['\\', 'r']
  | '\t' => ['\\', 't']
  | _ =>
    if c.toNat < 0x20 then
      let digits := Text.Quoted.hex c.toNat
      ['\\', 'u'] ++ List.replicate (4 - digits.length) '0' ++ digits
    else [c]

def quote (text : String) : List Char := '"' :: text.toList.flatMap escape ++ ['"']

namespace Value

mutual

def write : Value → List Char
  | null => "null".toList
  | bool true => "true".toList
  | bool false => "false".toList
  | int value => (toString value).toList
  | float value => (writeFloat value).toList
  | string text => quote text
  | array items => '[' :: writeItems items ++ [']']
  | object members => '\x7b' :: writeMembers members ++ ['\x7d']

def writeItems : List Value → List Char
  | [] => []
  | [item] => item.write
  | item :: rest => item.write ++ ',' :: writeItems rest

def writeMembers : List (String × Value) → List Char
  | [] => []
  | [(name, value)] => quote name ++ ':' :: value.write
  | (name, value) :: rest => quote name ++ ':' :: value.write ++ ',' :: writeMembers rest

end

def text (value : Value) : String := String.ofList value.write

mutual

/-- A value as data without places. Members are in the order of their names, and of two members with
one name the last one stays. -/
def toNode : Value → Data.Node
  | null => .scalar none (.null "null")
  | bool value => .scalar none (.ofBool value)
  | int value => .scalar none (.ofInt value)
  | float value => .scalar none (.other (shownFloat value))
  | string text => .scalar none (.ofText text)
  | array items => .list none none false (itemsToNodes items) none
  | object members => .table none false
      ((Fields.ofList (membersToNodes members)).toList.map fun member =>
        ⟨.field member.1, .scalar none (.ofText member.1), none, member.2, none⟩) none

def itemsToNodes : List Value → List Data.Item
  | [] => []
  | item :: rest => ⟨item.toNode, none⟩ :: itemsToNodes rest

def membersToNodes : List (String × Value) → List (String × Data.Node)
  | [] => []
  | (name, value) :: rest => (name, value.toNode) :: membersToNodes rest

end

end Value

end PageFeed.Json
