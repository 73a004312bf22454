import PageFeed.Json.Reading
import PageFeed.Rule.Compilation
import PageFeed.Rule.Spec.Reading
import PageFeed.Yaml.Reading

/-! Rule sets loaded from JSON and YAML. -/

namespace PageFeed

def RuleSetSpec.ofJson (text : String) : Except Error RuleSetSpec :=
  let (node, rest) := Json.read text
  match RuleSetSpec.ofNode true node, rest with
  | .ok spec, none => .ok spec
  | .ok _, some fault => .error (.json fault)
  | .error fault, _ => .error (.json fault)

/-- Reads a rule set that is written in YAML. A list may not stand for a record there. -/
def RuleSetSpec.ofYaml (text : String) : Except Error RuleSetSpec :=
  match Yaml.read? text with
  | some node => (RuleSetSpec.ofNode false node).mapError fun fault => .yaml (some fault)
  | none => .error (.yaml none)

def RuleSpec.ofValue (value : Json.Value) : Except Error RuleSpec :=
  (RuleSpec.ofNode value.toNode).mapError .json

def RuleSet.ofYaml (text : String) (registry : Registry) : Except Error RuleSet := do
  (← RuleSetSpec.ofYaml text).compile registry

def RuleSet.ofJson (text : String) (registry : Registry) : Except Error RuleSet := do
  (← RuleSetSpec.ofJson text).compile registry

end PageFeed
