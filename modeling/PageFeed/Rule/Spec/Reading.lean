import PageFeed.Data.Node
import PageFeed.Rule.Spec.Basic

/-! Written rule sets taken from structured data. Data is read in its order, and the first fault is
the outcome. A record takes no fields but its own, and each at most once. -/

namespace PageFeed

open Data (Node Item Pair Fault Mark Path)

namespace SpecReading

def readText (expected : String) (path : Path) (node : Node) : Except Fault String :=
  match node with
  | .scalar _ { text? := some content, .. } => .ok content
  | node => .error (node.refusal path expected)

def readTruth (path : Path) (node : Node) : Except Fault Bool :=
  match node with
  | .scalar _ { truth? := some value, .. } => .ok value
  | node => .error (node.refusal path "a boolean")

/-- Where a value stands: the path to what it lies in, the place for reports on that, and the path
to the value. -/
structure Spot where
  outer : Path
  outerMark : Option Mark
  path : Path

def readOptional {α : Type} (read : Path → Node → Except Fault α) (spot : Spot) (node : Node) :
    Except Fault (Option α) :=
  match node with
  | .scalar _ { presence := .absent, .. } => .ok none
  | .scalar _ { presence := .refused cause, .. } => .error ⟨cause, spot.outerMark, spot.outer⟩
  | node => some <$> read spot.path node

def readOptionalText : Spot → Node → Except Fault (Option String) :=
  readOptional (readText "a string")

def readFields {α : Type} (known : List String) (put : String → Spot → Node → α → Except Fault α)
    (path : Path) : (seen : List String) → List Pair → α → Except Fault α
  | _, [], record => .ok record
  | seen, ⟨step, key, keyMark, value, valueMark⟩ :: rest, record => do
    let name ← readText "field identifier" path key
    if !known.contains name then .error ⟨.unknownField name known, key.mark?, path⟩
    else if seen.contains name then .error ⟨.duplicateField name, keyMark, path⟩
    else
      let record ← put name ⟨path, valueMark, step :: path⟩ value record
      readFields known put path (name :: seen) rest record

def readNamed {α : Type} (read : Path → Node → Except Fault α) (path : Path) :
    List Pair → Fields α → Except Fault (Fields α)
  | [], fields => .ok fields
  | ⟨step, key, _, value, _⟩ :: rest, fields => do
    let name ← readText "a string" path key
    let value ← read (step :: path) value
    readNamed read path rest (fields.insert name value)

/-- Whether a key names the attribute of a content descriptor, if it is a key for a descriptor at
all. A whole number names a field by its index. -/
def isAttributeKey? (key : Node) : Option Bool :=
  match key with
  | .scalar _ { value := .text name, .. } => some (name == "attribute")
  | .scalar _ { value := .whole index, .. } => some (index == 0)
  | _ => none

def attributeValues? : List Pair → Option (List Node)
  | [] => some []
  | ⟨_, key, _, value, _⟩ :: rest =>
    match isAttributeKey? key, attributeValues? rest with
    | some true, some values => some (value :: values)
    | some false, some values => some values
    | _, _ => none

def contentOf? (node : Node) : Option ContentSpec :=
  match node with
  | .scalar _ { value := .text name, .. } => some (.named name)
  | .table _ _ pairs _ =>
    match attributeValues? pairs with
    | some [.scalar _ { value := .text name, .. }] => some (.attr name)
    | _ => none
  | _ => none

/-- Reads a content mode. It may be written in several ways, so what it is decided from is read to
its end first, and a report on it is one on the record. -/
def readContent (spot : Spot) (node : Node) : Except Fault ContentSpec := do
  node.takeAny spot.path
  match contentOf? node with
  | some content => return content
  | none => .error ⟨.noAlternative "ContentSpec", spot.outerMark, spot.outer⟩

def recordFields : List String := [
  "selector", "absolute", "literal", "content", "processor", "prefix", "suffix", "type", "filter"]

def readRecordField (name : String) (spot : Spot) (node : Node) (record : RuleRecord) :
    Except Fault RuleRecord :=
  match name with
  | "selector" => return { record with selector := ← readOptionalText spot node }
  | "absolute" => return { record with isAbsolute := ← readTruth spot.path node }
  | "literal" => return { record with literal := ← readOptionalText spot node }
  | "content" => do
    let content ← readOptional (fun _ => readContent spot) spot node
    return { record with content }
  | "processor" => return { record with processor := ← readOptionalText spot node }
  | "prefix" => return { record with lead := ← readOptionalText spot node }
  | "suffix" => return { record with trail := ← readOptionalText spot node }
  | "type" => return { record with valueType := ← readOptionalText spot node }
  | "filter" => return { record with filter := ← readOptionalText spot node }
  | _ => .ok record

def ruleExpected : String := "a selector string or a rule record"

def readRule (path : Path) (node : Node) : Except Fault RuleSpec :=
  match node with
  | .scalar mark content =>
    match content.value with
    | .text selector => .ok (.bare selector)
    | .variant => .error ⟨.wrongType "enum" ruleExpected, mark, path⟩
    | _ => .error ⟨content.refusal ruleExpected, mark, path⟩
  | .list mark entered isVariant _ _ =>
    if isVariant then .error ⟨.wrongType "enum" ruleExpected, mark, path⟩
    else .error ⟨.wrongType "sequence" ruleExpected, entered, path⟩
  | .table mark isVariant pairs stop =>
    if isVariant then .error ⟨.wrongType "enum" ruleExpected, mark, path⟩
    else do
      let record ← readFields recordFields readRecordField path [] pairs {}
      Node.raise stop
      return .record record
  | .broken fault => .error fault

/-- Reads named rules. A blank counts as no rules. -/
def readRules (path : Path) (node : Node) : Except Fault (Fields RuleSpec) :=
  match node with
  | .table _ _ pairs stop => do
    let rules ← readNamed readRule path pairs ∅
    Node.raise stop
    return rules
  | .scalar _ { isBlank := true, .. } => .ok ∅
  | node => .error (node.refusal path "a map")

def setFields : List String := ["info", "entry", "entries"]

def readSetField (name : String) (spot : Spot) (node : Node) (spec : RuleSetSpec) :
    Except Fault RuleSetSpec :=
  match name with
  | "info" => return { spec with info := ← readRules spot.path node }
  | "entry" => return { spec with entry := ← readOptional readRules spot node }
  | "entries" => return { spec with entries := ← readOptional readRule spot node }
  | _ => .ok spec

/-- Reads the fields of a rule set from a list, in their order. Fields at the end may be missing. -/
def readSetItems (path : Path) (stop : Option Fault) :
    (names : List String) → List Item → RuleSetSpec → Except Fault RuleSetSpec
  | [], _, spec => .ok spec
  | _ :: _, [], spec => do
    Node.raise stop
    return spec
  | name :: names, ⟨value, unfinished⟩ :: rest, spec => do
    let spec ← readSetField name ⟨path, none, path⟩ value spec
    if names.isEmpty then Node.raise unfinished
    readSetItems path stop names rest spec

end SpecReading

open SpecReading

def RuleSpec.ofNode (node : Node) : Except Fault RuleSpec := readRule [] node

/-- Reads a rule set from data. Where lists may stand for records, one may stand for the rule
set. -/
def RuleSetSpec.ofNode (listsAreRecords : Bool) (node : Node) : Except Fault RuleSetSpec :=
  match node with
  | .table _ _ pairs stop => do
    let spec ← readFields setFields readSetField [] [] pairs {}
    Node.raise stop
    return spec
  | .scalar _ { isBlank := true, .. } => .ok {}
  | .list mark entered isVariant items stop =>
    if listsAreRecords then readSetItems [] stop setFields items {}
    else .error ((Node.list mark entered isVariant items stop).refusal [] "struct RuleSetSpec")
  | node => .error (node.refusal [] "struct RuleSetSpec")

end PageFeed
