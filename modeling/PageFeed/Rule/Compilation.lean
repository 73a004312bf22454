import PageFeed.Rule.Registry
import PageFeed.Rule.Set
import PageFeed.Rule.Spec.Basic

/-! Rule sets made from their written form: names are looked up and selectors read. -/

namespace PageFeed

def Content.ofName? (name : String) : Option Content :=
  match name with
  | "text" => some .text
  | "inner_html" => some .innerMarkup
  | "inner_markup" => some .innerMarkup
  | "html" => some .outerMarkup
  | "outer_html" => some .outerMarkup
  | "outer_markup" => some .outerMarkup
  | _ => none

def ValueType.ofName? (name : String) : Option ValueType :=
  match name with
  | "text" => some .plain
  | "cdata" => some .cdata
  | "datetime" => some .dateTime
  | _ => none

def ContentSpec.toContent : ContentSpec → Except RuleFault Content
  | attr name => .ok (.attr name)
  | named name =>
    match Content.ofName? name with
    | some content => .ok content
    | none => .error (.unknownContent name)

namespace RuleRecord

def resolve {α : Type} (find? : String → Option α) (unknown : String → RuleFault) :
    Option String → Except RuleFault (Option α)
  | none => .ok none
  | some name =>
    match find? name with
    | some found => .ok (some found)
    | none => .error (unknown name)

/-- The parts of a rule other than its selector. Content mode, type, processor and filter are looked
at in this order. -/
def details (record : RuleRecord) (registry : Registry) (pattern : Option Pattern) :
    Except RuleFault Rule := do
  let content ← match record.content with
    | none => .ok Content.text
    | some content => content.toContent
  let valueType ← resolve ValueType.ofName? .unknownType record.valueType
  let processor ← resolve registry.processor? .unknownProcessor record.processor
  let filter ← resolve registry.filter? .unknownFilter record.filter
  return {
    pattern, content, processor, filter
    isAbsolute := record.isAbsolute
    literal := record.literal
    lead := record.lead
    trail := record.trail
    valueType := valueType.getD .plain }

def compile (record : RuleRecord) (registry : Registry) : Except Error Rule := do
  let rule ← match record.selector with
    | some source => Rule.ofSelector source
    | none => .ok {}
  match record.details registry rule.pattern with
  | .ok rule => .ok rule
  | .error fault => .error (.config (.rule none fault))

end RuleRecord

namespace RuleSpec

def compileAt (registry : Registry) (place : RulePlace) (spec : RuleSpec) : Except Error Rule :=
  (spec.toRecord.compile registry).mapError (Error.at place)

end RuleSpec

namespace RuleSetSpec

/-- The rule set that is written, if it is a valid one. Of several faults the first one is reported:
a missing map of rules for entries, then faulty rules in their order, then misplaced filters. -/
def compile (spec : RuleSetSpec) (registry : Registry) : Except Error RuleSet := do
  let spec := spec.normalize
  match spec.entry with
  | none => .error (.config .missingEntry)
  | some entry =>
    let info ← spec.info.traverse fun name => RuleSpec.compileAt registry (.info name)
    let entry ← entry.traverse fun name => RuleSpec.compileAt registry (.entry name)
    let container ← match spec.entries with
      | none => .ok none
      | some rule => some <$> rule.compileAt registry .container
    let rules : RuleSet := { info, entry, container }
    rules.validate
    return rules

end RuleSetSpec

end PageFeed
