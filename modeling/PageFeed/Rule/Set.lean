import PageFeed.Rule.Basic
import PageFeed.Fields

/-! Rule sets: rules for the feed, rules for its entries, and perhaps a rule for the containers of
the entries. -/

namespace PageFeed

structure RuleSet where
  info : Fields Rule := ∅
  entry : Fields Rule := ∅
  container : Option Rule := none

instance : Inhabited RuleSet := ⟨{}⟩

namespace RuleSet

def withInfo (rules : RuleSet) (name : String) (rule : Rule) : RuleSet :=
  { rules with info := rules.info.insert name rule }

def withEntry (rules : RuleSet) (name : String) (rule : Rule) : RuleSet :=
  { rules with entry := rules.entry.insert name rule }

def withContainer (rules : RuleSet) (rule : Rule) : RuleSet := { rules with container := some rule }

def isWrapped (rules : RuleSet) : Bool := rules.container.isSome

def placed (rules : RuleSet) : List (RulePlace × Rule) :=
  rules.info.toList.map (fun field => (.info field.1, field.2)) ++
    rules.entry.toList.map fun field => (.entry field.1, field.2)

/-- Refuses filters anywhere but on the container. -/
def validate (rules : RuleSet) : Except Error Unit :=
  match rules.placed.find? fun placed => placed.2.filter.isSome with
  | some placed => .error (.config (.misplacedFilter placed.1))
  | none => .ok ()

end RuleSet

end PageFeed
