import PageFeed.Rule.Set
import PageFeed.Text.Outline

/-! Rule sets written out for a reader. Functions are shown by their presence only. -/

namespace PageFeed

open Text (Outline)

def Content.outline : Content → Outline
  | text => .leaf "Text"
  | innerMarkup => .leaf "InnerMarkup"
  | outerMarkup => .leaf "OuterMarkup"
  | attr name => .applied "Attribute" (.text name)

def ValueType.outline : ValueType → Outline
  | plain => .leaf "PlainText"
  | cdata => .leaf "Cdata"
  | dateTime => .leaf "DateTime"

def functionOutline {α : Type} (function : Option α) : Outline :=
  .optional (function.map fun _ => .text "<fn>")

def textOutline (text : Option String) : Outline := .optional (text.map Outline.text)

def Rule.outline (rule : Rule) : Outline := .record "Rule" [
  ("selector", textOutline (Rule.source? rule.toSettings)),
  ("absolute", .truth rule.isAbsolute),
  ("literal", textOutline rule.literal),
  ("content", rule.content.outline),
  ("processor", functionOutline rule.processor),
  ("prefix", textOutline rule.lead),
  ("suffix", textOutline rule.trail),
  ("value_type", rule.valueType.outline),
  ("filter", functionOutline rule.filter)]

def rulesOutline (rules : Fields Rule) : Outline :=
  .table (rules.toList.map fun field => (field.1, field.2.outline))

def RuleSet.outline (rules : RuleSet) : Outline := .record "RuleSet" [
  ("info", rulesOutline rules.info),
  ("entry", rulesOutline rules.entry),
  ("entries_container", .optional (rules.container.map Rule.outline))]

end PageFeed
