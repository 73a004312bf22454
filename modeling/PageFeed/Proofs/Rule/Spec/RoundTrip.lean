import PageFeed.Proofs.Json.Agreement
import PageFeed.Proofs.Json.Value
import PageFeed.Proofs.Rule.Normalization
import PageFeed.Rule.Spec.Loading
import PageFeed.Rule.Spec.Writing

/-! Written rule sets read back from their JSON form. A record is written as a list of fields in the
order of their declaration, and reading one of them sets just that field, so a record that is read
field by field becomes the record that was written. -/

namespace PageFeed

open Data (Node Pair Fault Path)
open Json (Value Denotes PairsDenote)
open SpecReading

/-! ## Fields of records -/

/-- A field of a record as it is written, with what reading it does to a record. -/
structure WrittenField (α : Type) where
  name : String
  value : Value
  set : α → α

namespace WrittenField

variable {α β : Type}

/-- The field as a member of an object. -/
def member (field : WrittenField α) : String × Value := (field.name, field.value)

/-- A reader of fields does with the field what is expected. -/
def IsReadBy (put : String → Spot → Node → α → Except Fault α) (field : WrittenField α) : Prop :=
  ∀ spot node record, Denotes node field.value → put field.name spot node record = .ok (field.set record)

/-- A field that is written only if it has a value. -/
def optional (name : String) (write : β → Value) (set : Option β → α → α) (value : Option β) :
    List (WrittenField α) :=
  (value.map fun value => ⟨name, write value, set (some value)⟩).toList

variable {name : String} {write : β → Value} {set : Option β → α → α} {value : Option β}

theorem forall_mem_optional {holds : WrittenField α → Prop} :
    (∀ field ∈ optional name write set value, holds field) ↔
      ∀ content, value = some content → holds ⟨name, write content, set (some content)⟩ := by
  cases value <;> simp [optional]

theorem map_member_optional : (optional name write set value).map member =
    (value.map fun content => (name, write content)).toList := by
  cases value <;> rfl

theorem names_optional : ((optional name write set value).map WrittenField.name).Sublist [name] := by
  cases value with
  | none => exact List.nil_sublist _
  | some content => exact List.Sublist.refl _

/-- Whether a field is left out or set makes no difference where its default stands. -/
theorem foldl_optional {record : α} (default : set none record = record) :
    (optional name write set value).foldl (fun record field => field.set record) record =
      set value record := by
  cases value with
  | none => exact default.symm
  | some content => rfl

/-- Fields in the order of the known ones are read one after the other. -/
theorem readFields_eq {fields : List (WrittenField α)} {known seen : List String} {pairs : List Pair}
    {put : String → Spot → Node → α → Except Fault α} (path : Path) (record : α)
    (denotes : PairsDenote pairs (fields.map member))
    (isKnown : ∀ field ∈ fields, field.name ∈ known)
    (distinct : (fields.map WrittenField.name).Nodup)
    (fresh : ∀ field ∈ fields, field.name ∉ seen)
    (isRead : ∀ field ∈ fields, field.IsReadBy put) :
    readFields known put path seen pairs record =
      .ok (fields.foldl (fun record field => field.set record) record) := by
  induction fields generalizing pairs seen record with
  | nil =>
    cases denotes
    rfl
  | cons field fields ih =>
    cases denotes with
    | cons keyMark valueMark first more =>
      obtain ⟨firstKnown, isKnown⟩ := List.forall_mem_cons.mp isKnown
      obtain ⟨firstFresh, fresh⟩ := List.forall_mem_cons.mp fresh
      obtain ⟨firstRead, isRead⟩ := List.forall_mem_cons.mp isRead
      obtain ⟨firstDistinct, distinct⟩ := List.nodup_cons.mp distinct
      -- the names are distinct, so the rest of the fields stays fresh when this one has been seen
      have stillFresh : ∀ other ∈ fields, other.name ∉ field.name :: seen := by
        intro other isMember
        have different : other.name ≠ field.name := by
          intro same
          exact firstDistinct (List.mem_map.mpr ⟨other, isMember, same⟩)
        simp [different, fresh other isMember]
      have name : readText "field identifier" path (.scalar keyMark (.ofText field.name)) =
        .ok field.name := rfl
      have isKnownName : known.contains field.name = true := List.contains_iff_mem.mpr firstKnown
      have isFresh : seen.contains field.name = false := by simpa using firstFresh
      rw [readFields, name]
      simp only [bind, Except.bind, isKnownName, isFresh, Bool.not_true, Bool.false_eq_true, if_false,
        firstRead _ _ _ first]
      exact ih _ more isKnown distinct stillFresh isRead

end WrittenField

/-! ## Rules -/

open WrittenField (optional names_optional map_member_optional foldl_optional forall_mem_optional)

/-- What is written as a text, a truth value or an object is there. -/
theorem readOptional_eq {α : Type} (read : Path → Node → Except Fault α) (spot : Spot) {node : Node}
    {value : Value} {depth : Nat} (plain : value.IsPlain depth) (denotes : Denotes node value) :
    readOptional read spot node = some <$> read spot.path node := by
  cases plain <;> cases denotes <;> rfl

theorem ContentSpec.isPlain_toJson (content : ContentSpec) (depth : Nat) :
    content.toJson.IsPlain (depth + 1) := by
  cases content with
  | named name => exact .string name
  | attr name => exact .object (List.forall_mem_singleton.mpr (.string name))

theorem ContentSpec.readContent_toJson (content : ContentSpec) (spot : Spot) {node : Node}
    (denotes : Denotes node content.toJson) : readContent spot node = .ok content := by
  cases content with
  | named name =>
    cases denotes
    rfl
  | attr name =>
    cases denotes with
    | object mark pairs =>
      cases pairs with
      | cons keyMark valueMark first more =>
        cases first
        cases more
        rfl

namespace RuleRecord

/-- The fields of a record that are written. -/
def writtenFields (record : RuleRecord) : List (WrittenField RuleRecord) :=
  optional "selector" .string (fun text record => { record with selector := text })
    record.selector ++
  optional "absolute" (fun _ => .bool true) (fun flag record => { record with
    isAbsolute := flag.isSome }) (if record.isAbsolute then some () else none) ++
  optional "literal" .string (fun text record => { record with literal := text }) record.literal ++
  optional "content" ContentSpec.toJson (fun content record => { record with content })
    record.content ++
  optional "processor" .string (fun text record => { record with processor := text })
    record.processor ++
  optional "prefix" .string (fun text record => { record with lead := text }) record.lead ++
  optional "suffix" .string (fun text record => { record with trail := text }) record.trail ++
  optional "type" .string (fun text record => { record with valueType := text })
    record.valueType ++
  optional "filter" .string (fun text record => { record with filter := text }) record.filter

theorem toJson_eq (record : RuleRecord) :
    record.toJson = .object (record.writtenFields.map WrittenField.member) := by
  simp only [toJson, writtenFields, List.map_append, map_member_optional, textMember]
  cases record.isAbsolute <;> rfl

theorem names_writtenFields (record : RuleRecord) :
    (record.writtenFields.map WrittenField.name).Sublist recordFields := by
  simp only [writtenFields, List.map_append]
  exact names_optional |>.append names_optional |>.append names_optional |>.append names_optional
    |>.append names_optional |>.append names_optional |>.append names_optional
    |>.append names_optional |>.append names_optional

/-- Setting the written fields of a record one by one makes the record. -/
theorem foldl_writtenFields (record : RuleRecord) :
    record.writtenFields.foldl (fun record field => field.set record) {} = record := by
  obtain ⟨_, isAbsolute, _, _, _, _, _, _, _⟩ := record
  simp only [writtenFields, List.foldl_append, foldl_optional, Option.isSome_none]
  cases isAbsolute <;> rfl

theorem isPlain_of_mem_writtenFields (record : RuleRecord) (depth : Nat) :
    ∀ field ∈ record.writtenFields, field.value.IsPlain (depth + 1) := by
  simp only [writtenFields, List.forall_mem_append, forall_mem_optional]
  refine ⟨⟨⟨⟨⟨⟨⟨⟨?_, ?absolute⟩, ?_⟩, ?content⟩, ?_⟩, ?_⟩, ?_⟩, ?_⟩, ?_⟩
  case absolute => exact fun _ _ => .bool true
  case content => exact fun content _ => content.isPlain_toJson depth
  all_goals exact fun text _ => .string text

/-- An optional text is read as the text it was written from. -/
theorem isReadBy_text {name : String} {set : Option String → RuleRecord → RuleRecord}
    (puts : ∀ spot node record, readRecordField name spot node record =
      (set · record) <$> readOptionalText spot node) (text : Option String) :
    ∀ field ∈ optional name .string set text, field.IsReadBy readRecordField := by
  rw [forall_mem_optional]
  intro content _ spot node record denotes
  have plain : (Value.string content).IsPlain 0 := .string content
  rw [puts, readOptionalText, readOptional_eq _ _ plain denotes]
  cases denotes
  rfl

theorem isReadBy_of_mem_writtenFields (record : RuleRecord) :
    ∀ field ∈ record.writtenFields, field.IsReadBy readRecordField := by
  simp only [writtenFields, List.forall_mem_append]
  refine ⟨⟨⟨⟨⟨⟨⟨⟨?_, ?absolute⟩, ?_⟩, ?content⟩, ?_⟩, ?_⟩, ?_⟩, ?_⟩, ?_⟩
  case absolute =>
    rw [forall_mem_optional]
    intro _ _ spot node record denotes
    cases denotes
    rfl
  case content =>
    rw [forall_mem_optional]
    intro content _ spot node record denotes
    simp only [readRecordField, readOptional_eq _ _ (content.isPlain_toJson 0) denotes,
      content.readContent_toJson spot denotes]
    rfl
  all_goals exact isReadBy_text (fun _ _ _ => rfl) _

end RuleRecord

namespace RuleSpec

theorem isPlain_toJson (spec : RuleSpec) (depth : Nat) : spec.toJson.IsPlain (depth + 2) := by
  cases spec with
  | bare selector => exact .string selector
  | record full =>
    rw [toJson, full.toJson_eq]
    exact .object (List.forall_mem_map.mpr (full.isPlain_of_mem_writtenFields depth))

/-- A rule is read back from its written form. -/
theorem readRule_toJson (spec : RuleSpec) (path : Path) {node : Node}
    (denotes : Denotes node spec.toJson) : readRule path node = .ok spec := by
  cases spec with
  | bare selector =>
    cases denotes
    rfl
  | record full =>
    rw [toJson, full.toJson_eq] at denotes
    cases denotes with
    | object mark pairs =>
      have names := full.names_writtenFields
      have distinct : recordFields.Nodup := by decide
      have fields := WrittenField.readFields_eq path {} pairs
        (fun field isMember => names.subset (List.mem_map_of_mem isMember)) (names.nodup distinct)
        (fun _ _ => List.not_mem_nil) full.isReadBy_of_mem_writtenFields
      rw [full.foldl_writtenFields] at fields
      simp only [readRule, fields]
      rfl

end RuleSpec

/-! ## Rule sets -/

theorem isPlain_rulesToJson (rules : Fields RuleSpec) (depth : Nat) :
    (rulesToJson rules).IsPlain (depth + 3) :=
  .object (List.forall_mem_map.mpr fun field _ => field.2.isPlain_toJson depth)

theorem readNamed_toJson {entries : List (String × RuleSpec)} {pairs : List Pair} {path : Path}
    {fields : Fields RuleSpec}
    (denotes : PairsDenote pairs (entries.map fun field => (field.1, field.2.toJson))) :
    readNamed readRule path pairs fields =
      .ok (entries.foldl (fun fields entry => fields.insert entry.1 entry.2) fields) := by
  induction entries generalizing pairs fields with
  | nil =>
    cases denotes
    rfl
  | cons entry entries ih =>
    cases denotes with
    | cons keyMark valueMark first more =>
      have name : readText "a string" path (.scalar keyMark (.ofText entry.1)) = .ok entry.1 := rfl
      rw [readNamed, name]
      simp only [bind, Except.bind, entry.2.readRule_toJson _ first]
      exact ih more

/-- Named rules are read back from their written form. -/
theorem readRules_toJson (rules : Fields RuleSpec) (path : Path) {node : Node}
    (denotes : Denotes node (rulesToJson rules)) : readRules path node = .ok rules := by
  cases denotes with
  | object mark pairs =>
    have named : readNamed readRule path _ ∅ = .ok (Fields.ofList rules.toList) :=
      readNamed_toJson pairs
    rw [Fields.ofList_toList] at named
    simp only [readRules, named]
    rfl

namespace RuleSetSpec

/-- The fields of a rule set that are written. -/
def writtenFields (spec : RuleSetSpec) : List (WrittenField RuleSetSpec) :=
  [⟨"info", rulesToJson spec.info, fun set => { set with info := spec.info }⟩] ++
  optional "entry" rulesToJson (fun entry set => { set with entry }) spec.entry ++
  optional "entries" RuleSpec.toJson (fun entries set => { set with entries }) spec.entries

theorem toJson_eq (spec : RuleSetSpec) :
    spec.toJson = .object (spec.writtenFields.map WrittenField.member) := by
  simp only [toJson, writtenFields, List.map_append, map_member_optional]
  rfl

theorem names_writtenFields (spec : RuleSetSpec) :
    (spec.writtenFields.map WrittenField.name).Sublist setFields := by
  simp only [writtenFields, List.map_append]
  exact (List.Sublist.refl ["info"]).append names_optional |>.append names_optional

theorem foldl_writtenFields (spec : RuleSetSpec) :
    spec.writtenFields.foldl (fun set field => field.set set) {} = spec := by
  simp only [writtenFields, List.foldl_append, List.foldl_cons, List.foldl_nil, foldl_optional]

theorem isPlain_toJson (spec : RuleSetSpec) (depth : Nat) : spec.toJson.IsPlain (depth + 4) := by
  rw [toJson_eq]
  refine .object (List.forall_mem_map.mpr ?_)
  simp only [writtenFields, List.forall_mem_append, forall_mem_optional, List.forall_mem_singleton]
  refine ⟨⟨?_, ?_⟩, ?_⟩
  · exact isPlain_rulesToJson spec.info depth
  · exact fun entry _ => isPlain_rulesToJson entry depth
  · exact fun entries _ => entries.isPlain_toJson (depth + 1)

theorem isReadBy_of_mem_writtenFields (spec : RuleSetSpec) :
    ∀ field ∈ spec.writtenFields, field.IsReadBy readSetField := by
  simp only [writtenFields, List.forall_mem_append, forall_mem_optional, List.forall_mem_singleton]
  refine ⟨⟨?_, ?_⟩, ?_⟩
  · intro spot node set denotes
    simp only [readSetField, readRules_toJson spec.info spot.path denotes]
    rfl
  · intro entry _ spot node set denotes
    simp only [readSetField, readOptional_eq _ _ (isPlain_rulesToJson entry 0) denotes,
      readRules_toJson entry spot.path denotes]
    rfl
  · intro entries _ spot node set denotes
    simp only [readSetField, readOptional_eq _ _ (entries.isPlain_toJson 0) denotes,
      entries.readRule_toJson spot.path denotes]
    rfl

theorem ofNode_toJson (spec : RuleSetSpec) {node : Node} (denotes : Denotes node spec.toJson) :
    ofNode true node = .ok spec := by
  rw [toJson_eq] at denotes
  cases denotes with
  | object mark pairs =>
    have names := spec.names_writtenFields
    have distinct : setFields.Nodup := by decide
    have fields := WrittenField.readFields_eq [] {} pairs
      (fun field isMember => names.subset (List.mem_map_of_mem isMember)) (names.nodup distinct)
      (fun _ _ => List.not_mem_nil) spec.isReadBy_of_mem_writtenFields
    rw [foldl_writtenFields] at fields
    simp only [ofNode, fields]
    rfl

/-- A rule set is read back from its JSON text. -/
theorem ofJson_text_toJson (spec : RuleSetSpec) : ofJson spec.toJson.text = .ok spec := by
  have back := (spec.isPlain_toJson 123).read?_text
  obtain ⟨node, read, denotes⟩ := Json.exists_read_of_read? back
  simp only [ofJson, read, spec.ofNode_toJson denotes]

/-- A rule set is read back from its JSON text, whatever it holds, and its full form that is written,
loaded and compiled gives what the rule set itself compiles to, with every registry. -/
theorem ofJson_roundTrip (spec : RuleSetSpec) :
    ofJson spec.toJson.text = .ok spec ∧
    ∀ registry : Registry,
      RuleSet.ofJson spec.normalize.toJson.text registry = spec.compile registry := by
  refine ⟨spec.ofJson_text_toJson, fun registry => ?_⟩
  calc RuleSet.ofJson spec.normalize.toJson.text registry
      = spec.normalize.compile registry := by
        rw [RuleSet.ofJson, spec.normalize.ofJson_text_toJson]
        rfl
    _ = spec.compile registry := spec.compile_normalize registry

end RuleSetSpec

end PageFeed
