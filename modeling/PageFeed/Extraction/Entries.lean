import PageFeed.Extraction.Format
import PageFeed.Rule.Set
import PageFeed.Selector.Matching
import Std.Data.TreeMap

/-! The entries of a feed. Without containers, the first match of every rule goes into the first
entry, the second into the second, and so on. With containers, every container is an entry, and
rules look for their values inside of it. -/

namespace PageFeed

open Html (Document NodeId)

namespace Rule

def matchesIn (rule : Rule) (document : Document) : List NodeId :=
  match rule.pattern with
  | some pattern => pattern.selector.select document
  | none => []

def firstText (rule : Rule) (dates : Moment.Reader) (document : Document) : String :=
  rule.formatOptional dates document (rule.matchesIn document).head?

end Rule

namespace Extraction

abbrev Columns := Std.TreeMap Nat Entry

def Columns.set (columns : Columns) (place : Nat) (name value : String) : Columns :=
  columns.insert place ((columns.getD place ∅).insert name value)

def Columns.fill (name : String) : (place : Nat) → List String → Columns → Columns
  | _, [], columns => columns
  | place, value :: values, columns =>
    fill name (place + 1) values (columns.set place name value)

/-- What the rules looked at so far have found: values of entries, and values that all entries
share. -/
structure Alignment where
  columns : Columns := ∅
  shared : Fields String := ∅

/-- Looks at one rule. A rule with a literal and an absolute rule have one value for all entries. Of
any other rule, every match is the value of an entry of its own. -/
def Alignment.take (dates : Moment.Reader) (document : Document) (alignment : Alignment)
    (field : String × Rule) : Alignment :=
  let (name, rule) := field
  match rule.literal with
  | some literal => { alignment with shared := alignment.shared.insert name literal }
  | none =>
    if rule.isAbsolute then
      { alignment with shared := alignment.shared.insert name (rule.firstText dates document) }
    else
      let values := (rule.matchesIn document).map (rule.format dates document)
      { alignment with columns := alignment.columns.fill name 0 values }

def align (dates : Moment.Reader) (document : Document) (rules : List (String × Rule)) :
    Alignment :=
  rules.foldl (Alignment.take dates document) {}

/-- The entries without containers, in the order of their places. Shared values are put into each of
them. -/
def unwrapped (dates : Moment.Reader) (document : Document) (rules : Fields Rule) : List Entry :=
  let alignment := align dates document rules.toList
  alignment.columns.toList.map fun column => column.2.extend alignment.shared

def absolutes (dates : Moment.Reader) (document : Document) (rules : Fields Rule) : Fields String :=
  (rules.filter fun _ rule => rule.literal.isNone && rule.isAbsolute).map fun _ rule =>
    rule.firstText dates document

/-- The value of a rule in the entry of a container: its literal, what it finds in the page first,
what it finds in the container first, or the container itself. -/
def valueIn (dates : Moment.Reader) (document : Document) (absolutes : Fields String)
    (container : NodeId) (name : String) (rule : Rule) : String :=
  match rule.literal with
  | some literal => literal
  | none =>
    if rule.isAbsolute then (absolutes.get? name).getD ""
    else
      match rule.pattern with
      | some pattern =>
        rule.formatOptional dates document (pattern.selector.selectBelow document container).head?
      | none => rule.format dates document container

def entryOf (dates : Moment.Reader) (document : Document) (rules : Fields Rule)
    (absolutes : Fields String) (container : NodeId) : Entry :=
  rules.map (valueIn dates document absolutes container)

def wrapped (dates : Moment.Reader) (document : Document) (rules : Fields Rule) (container : Rule) :
    List Entry :=
  let absolutes := absolutes dates document rules
  let entries := (container.matchesIn document).map (entryOf dates document rules absolutes)
  match container.filter with
  | some keep => entries.filter keep
  | none => entries

def entries (dates : Moment.Reader) (document : Document) (rules : RuleSet) : List Entry :=
  match rules.container with
  | some container => wrapped dates document rules.entry container
  | none => unwrapped dates document rules.entry

def info (dates : Moment.Reader) (document : Document) (rules : Fields Rule) : Fields String :=
  rules.map fun _ rule =>
    match rule.literal with
    | some literal => literal
    | none => rule.firstText dates document

end Extraction

end PageFeed
