import PageFeed.Json.Flaw

/-! Why structured data is refused, and where. -/

namespace PageFeed.Data

structure Mark where
  line : Nat
  column : Nat
deriving DecidableEq, Repr, Inhabited

inductive Step
  | field (name : String)
  | unnamed
  | item (index : Nat)
deriving DecidableEq, Repr, Inhabited

/-- The steps from the topmost value to another, the last step first. -/
abbrev Path := List Step

def Path.text : Path → String
  | [] => ""
  | [.field name] => name
  | [.unnamed] => "?"
  | .field name :: outer => Path.text outer ++ "." ++ name
  | .unnamed :: outer => Path.text outer ++ ".?"
  | .item index :: outer => Path.text outer ++ "[" ++ toString index ++ "]"

inductive Cause
  | flawed (flaw : Json.Flaw)
  | wrongType (found expected : String)
  | wrongValue (found expected : String)
  | duplicateField (name : String)
  | unknownField (name : String) (known : List String)
  | noAlternative (type : String)
  | variant
  | tooDeep
  | tooManyCopies
deriving DecidableEq, Repr, Inhabited

def oneOf (names : List String) : String :=
  let quoted := names.map fun name => "`" ++ name ++ "`"
  match quoted with
  | [] => "there are no fields"
  | [one] => "expected " ++ one
  | [one, other] => "expected " ++ one ++ " or " ++ other
  | _ => "expected one of " ++ String.intercalate ", " quoted

def Cause.message : Cause → String
  | flawed flaw => flaw.message
  | wrongType found expected => "invalid type: " ++ found ++ ", expected " ++ expected
  | wrongValue found expected => "invalid value: " ++ found ++ ", expected " ++ expected
  | duplicateField name => "duplicate field `" ++ name ++ "`"
  | unknownField name known => "unknown field `" ++ name ++ "`, " ++ oneOf known
  | noAlternative type => "data did not match any variant of untagged enum " ++ type
  | variant => "untagged and internally tagged enums do not support enum input"
  | tooDeep => "recursion limit exceeded"
  | tooManyCopies => "repetition limit exceeded"

structure Fault where
  cause : Cause
  mark : Option Mark
  path : Path
deriving DecidableEq, Repr, Inhabited

def Fault.inText (fault : Fault) : String :=
  match fault.mark with
  | some mark => fault.cause.message ++ " at line " ++ toString mark.line ++ " column " ++
      toString mark.column
  | none => fault.cause.message

def Fault.onPath (fault : Fault) : String :=
  if fault.path.isEmpty then fault.inText else Path.text fault.path ++ ": " ++ fault.inText

end PageFeed.Data
