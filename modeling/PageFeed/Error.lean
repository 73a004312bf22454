import PageFeed.Atom
import PageFeed.Data.Fault
import PageFeed.Selector.Fault

/-! Everything that can be wrong with a rule set or with a feed that is written out. Extraction
itself never fails. -/

namespace PageFeed

inductive RulePlace
  | info (name : String)
  | entry (name : String)
  | container
deriving DecidableEq, Repr, Inhabited

def RulePlace.text : RulePlace → String
  | info name => "`info." ++ name ++ "`"
  | entry name => "`entry." ++ name ++ "`"
  | container => "`entries`"

inductive RuleFault
  | unknownContent (name : String)
  | unknownType (name : String)
  | unknownProcessor (name : String)
  | unknownFilter (name : String)
deriving DecidableEq, Repr, Inhabited

def RuleFault.message : RuleFault → String
  | unknownContent name => "unknown content mode `" ++ name ++ "`"
  | unknownType name => "unknown type `" ++ name ++ "`"
  | unknownProcessor name => "unknown processor `" ++ name ++ "`"
  | unknownFilter name => "unknown filter `" ++ name ++ "`"

inductive ConfigFault
  | missingEntry
  | rule (place : Option RulePlace) (fault : RuleFault)
  | misplacedFilter (place : RulePlace)
deriving DecidableEq, Repr, Inhabited

def ConfigFault.message : ConfigFault → String
  | missingEntry => "rule set has no `entry` map"
  | rule none fault => fault.message
  | rule (some place) fault => place.text ++ ": " ++ fault.message
  | misplacedFilter place =>
    place.text ++ " has a filter; filters are only allowed on the entries container"

/-- An error. A YAML text that is not even well formed has no further account. -/
inductive Error
  | config (fault : ConfigFault)
  | selector (source : String) (fault : Selector.Fault)
  | json (fault : Data.Fault)
  | yaml (fault : Option Data.Fault)
  | render (fault : Atom.RenderFault)
deriving DecidableEq, Repr

def Error.message : Error → String
  | config fault => "invalid rule set: " ++ fault.message
  | selector source fault => "invalid selector `" ++ source ++ "`: " ++ fault.message
  | json fault => "failed to parse rules as JSON: " ++ fault.inText
  | yaml (some fault) => "failed to parse rules as YAML: " ++ fault.onPath
  | yaml none => "failed to parse rules as YAML: malformed text"
  | render fault => "failed to render feed: " ++ fault.message

/-- Says where a faulty rule stands. Other errors keep what they say. -/
def Error.at (place : RulePlace) : Error → Error
  | config (.rule none fault) => config (.rule (some place) fault)
  | error => error

end PageFeed
