import PageFeed.Fields

/-! Rule sets as they are written down. A rule is either a bare selector or a record, and both forms
of a bare selector mean the same. -/

namespace PageFeed

inductive ContentSpec
  | named (name : String)
  | attr (name : String)
deriving DecidableEq, Repr, Inhabited

structure RuleRecord where
  selector : Option String := none
  isAbsolute : Bool := false
  literal : Option String := none
  content : Option ContentSpec := none
  processor : Option String := none
  lead : Option String := none
  trail : Option String := none
  valueType : Option String := none
  filter : Option String := none
deriving DecidableEq, Repr, Inhabited

inductive RuleSpec
  | bare (selector : String)
  | record (record : RuleRecord)
deriving DecidableEq, Repr, Inhabited

/-- A rule set as written. The rules for entries are required, but their absence is left to be
reported with the other faults of rule sets. -/
structure RuleSetSpec where
  info : Fields RuleSpec := ∅
  entry : Option (Fields RuleSpec) := none
  entries : Option RuleSpec := none
deriving DecidableEq, Inhabited

namespace RuleSpec

def toRecord : RuleSpec → RuleRecord
  | .bare selector => { selector := some selector }
  | .record full => full

def normalize (spec : RuleSpec) : RuleSpec := .record spec.toRecord

theorem normalize_normalize (spec : RuleSpec) : spec.normalize.normalize = spec.normalize := rfl

end RuleSpec

namespace RuleSetSpec

def normalize (spec : RuleSetSpec) : RuleSetSpec where
  info := spec.info.map fun _ => RuleSpec.normalize
  entry := spec.entry.map fun rules => rules.map fun _ => RuleSpec.normalize
  entries := spec.entries.map RuleSpec.normalize

end RuleSetSpec

end PageFeed
