import PageFeed.Data.Fault
import PageFeed.Text.Quoted

/-! Structured data as a text format writes it: scalars, lists and tables. A text that goes wrong
somewhere is data up to there, since what comes first may already be refused.

Every node knows the places at which a reader who refuses it reports so. -/

namespace PageFeed.Data

/-- What a scalar is where anything may stand. A `whole` is not negative, a `wide` one does not fit
64 bits, and a `variant` is marked as an alternative of some type. -/
inductive ScalarValue
  | text (content : String)
  | whole (value : Nat)
  | other (shown : String)
  | wide (shown : String)
  | variant
  | refused (cause : Cause)
deriving DecidableEq, Repr, Inhabited

inductive Presence
  | present
  | absent
  | refused (cause : Cause)
deriving DecidableEq, Repr, Inhabited

/-- A scalar. What it is depends on what is asked for: text, a truth value, an empty table,
an optional value, or anything. -/
structure Scalar where
  value : ScalarValue
  text? : Option String
  truth? : Option Bool
  presence : Presence
  isBlank : Bool
  shown : String
deriving DecidableEq, Repr, Inhabited

def shownText (content : String) : String := "string " ++ Text.Quoted.quote content

def shownWhole (value : Int) : String := "integer `" ++ toString value ++ "`"

def shownTruth (value : Bool) : String :=
  "boolean `" ++ (if value then "true" else "false") ++ "`"

mutual

/-- Data with its places. A list has one place for a reader who refuses it unseen and one for a
reader who has entered it. -/
inductive Node
  | scalar (mark : Option Mark) (content : Scalar)
  | list (mark entered : Option Mark) (isVariant : Bool) (items : List Item) (stop : Option Fault)
  | table (mark : Option Mark) (isVariant : Bool) (pairs : List Pair) (stop : Option Fault)
  | broken (fault : Fault)

/-- A member of a list, with the fault that it is not the last one, if that is a fault to
somebody. -/
inductive Item
  | mk (value : Node) (unfinished : Option Fault)

/-- A key with its value, and the step from the table to the value. Key and value each have a place
for a reader who refuses the table right behind them. -/
inductive Pair
  | mk (step : Step) (key : Node) (keyMark : Option Mark) (value : Node) (valueMark : Option Mark)

end

instance : Inhabited Node := ⟨.broken default⟩

namespace Scalar

def ofText (content : String) : Scalar :=
  ⟨.text content, some content, none, .present, false, shownText content⟩

def ofInt (value : Int) : Scalar :=
  let shown := shownWhole value
  ⟨if value < 0 then .other shown else .whole value.toNat, none, none, .present, false, shown⟩

def ofBool (value : Bool) : Scalar :=
  ⟨.other (shownTruth value), none, some value, .present, false, shownTruth value⟩

def null (shown : String) : Scalar := ⟨.other shown, none, none, .absent, false, shown⟩

def other (shown : String) : Scalar := ⟨.other shown, none, none, .present, false, shown⟩

def refusal (scalar : Scalar) (expected : String) : Cause :=
  match scalar.value with
  | .refused cause => cause
  | _ => .wrongType scalar.shown expected

end Scalar

namespace Node

def mark? : Node → Option Mark
  | scalar mark _ => mark
  | list mark _ _ _ _ => mark
  | table mark _ _ _ => mark
  | broken fault => fault.mark

def refusal (node : Node) (path : Path) (expected : String) : Fault :=
  match node with
  | scalar mark content => ⟨content.refusal expected, mark, path⟩
  | list mark _ _ _ _ => ⟨.wrongType "sequence" expected, mark, path⟩
  | table mark _ _ _ => ⟨.wrongType "map" expected, mark, path⟩
  | broken fault => fault

def raise : Option Fault → Except Fault Unit
  | some fault => .error fault
  | none => .ok ()

mutual

/-- Takes in a node where anything may stand. Only what nobody can take in is refused. -/
def takeAny (path : Path) : Node → Except Fault Unit
  | scalar mark content =>
    match content.value with
    | .refused cause => .error ⟨cause, mark, path⟩
    | .variant => .error ⟨.variant, mark, path⟩
    | .wide shown => .error ⟨.wrongType shown "any value", mark, path⟩
    | _ => .ok ()
  | list mark _ isVariant items stop =>
    if isVariant then .error ⟨.variant, mark, path⟩
    else do
      takeItems path 0 items
      raise stop
  | table mark isVariant pairs stop =>
    if isVariant then .error ⟨.variant, mark, path⟩
    else do
      takePairs path pairs
      raise stop
  | broken fault => .error fault

def takeItems (path : Path) (index : Nat) : List Item → Except Fault Unit
  | [] => .ok ()
  | ⟨value, _⟩ :: rest => do
    value.takeAny (.item index :: path)
    takeItems path (index + 1) rest

def takePairs (path : Path) : List Pair → Except Fault Unit
  | [] => .ok ()
  | ⟨step, key, _, value, _⟩ :: rest => do
    key.takeAny path
    value.takeAny (step :: path)
    takePairs path rest

end

end Node

end PageFeed.Data
