import PageFeed.Json.Value
import PageFeed.Rule.Spec.Basic

/-! Written rule sets as JSON values. What is left at its default is left out, except for the rules
of the feed. -/

namespace PageFeed

open Json (Value)

def textMember (name : String) (text : Option String) : List (String × Value) :=
  (text.map fun text => (name, Value.string text)).toList

def ContentSpec.toJson : ContentSpec → Value
  | .named name => .string name
  | .attr name => .object [("attribute", .string name)]

def RuleRecord.toJson (record : RuleRecord) : Value := .object (
  textMember "selector" record.selector ++
  (if record.isAbsolute then [("absolute", .bool true)] else []) ++
  textMember "literal" record.literal ++
  (record.content.map fun content => ("content", content.toJson)).toList ++
  textMember "processor" record.processor ++
  textMember "prefix" record.lead ++
  textMember "suffix" record.trail ++
  textMember "type" record.valueType ++
  textMember "filter" record.filter)

def RuleSpec.toJson : RuleSpec → Value
  | .bare selector => .string selector
  | .record full => full.toJson

def rulesToJson (rules : Fields RuleSpec) : Value :=
  .object (rules.toList.map fun field => (field.1, field.2.toJson))

def RuleSetSpec.toJson (spec : RuleSetSpec) : Value := .object (
  ("info", rulesToJson spec.info) ::
  (spec.entry.map fun rules => ("entry", rulesToJson rules)).toList ++
  (spec.entries.map fun rule => ("entries", rule.toJson)).toList)

end PageFeed
