import PageFeed.Text.Quoted

/-! Values written out for a reader: names, quoted texts, and groups of parts, either on one line or
with one part a line. -/

namespace PageFeed.Text

/-- A value to write out. A group stands between an opening and a closing mark. -/
inductive Outline
  | leaf (text : String)
  | labelled (label : String) (value : Outline)
  | group (opening closing : String) (isSpaced : Bool) (parts : List Outline)
deriving Inhabited

namespace Outline

def text (content : String) : Outline := leaf (Quoted.quote content)

def truth (value : Bool) : Outline := leaf (if value then "true" else "false")

def applied (name : String) (part : Outline) : Outline := group (name ++ "(") ")" false [part]

def record (name : String) (parts : List (String × Outline)) : Outline :=
  group (name ++ " \x7b") "\x7d" true (parts.map fun part => labelled part.1 part.2)

def table (parts : List (String × Outline)) : Outline :=
  group "\x7b" "\x7d" false (parts.map fun part => labelled (Quoted.quote part.1) part.2)

def optional : Option Outline → Outline
  | none => leaf "None"
  | some value => applied "Some" value

mutual

def line : Outline → String
  | leaf text => text
  | labelled label value => label ++ ": " ++ value.line
  | group opening closing isSpaced parts =>
    if parts.isEmpty then opening ++ closing
    else
      let space := if isSpaced then " " else ""
      opening ++ space ++ lineOfAll parts ++ space ++ closing

def lineOfAll : List Outline → String
  | [] => ""
  | [part] => part.line
  | part :: rest => part.line ++ ", " ++ lineOfAll rest

end

mutual

/-- One part a line, with four more spaces in front of it than its group has. -/
def lines (margin : String) : Outline → String
  | leaf text => text
  | labelled label value => label ++ ": " ++ value.lines margin
  | group opening closing _ parts =>
    if parts.isEmpty then opening ++ closing
    else opening ++ "\n" ++ linesOfAll (margin ++ "    ") parts ++ margin ++ closing

def linesOfAll (margin : String) : List Outline → String
  | [] => ""
  | part :: rest => margin ++ part.lines margin ++ ",\n" ++ linesOfAll margin rest

end

end Outline

end PageFeed.Text
