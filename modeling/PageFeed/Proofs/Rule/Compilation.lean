import PageFeed.Proofs.Fields.Traversal
import PageFeed.Proofs.Text.Blank
import PageFeed.Rule.Compilation

/-! Which written rule sets are valid, and what is made of them. A record is valid when its selector
can be read and every name in it is known; a rule set is valid when all its records are, its map of
rules for entries is there, and filters are named for the containers alone. Compilation succeeds for
the valid ones and no others, and makes each rule out of the options of its own record. -/

namespace PageFeed

/-! ## Names -/

/-- The content modes that have a name. -/
def contentNames : List (String × Content) := [
  ("text", .text), ("inner_html", .innerMarkup), ("inner_markup", .innerMarkup),
  ("html", .outerMarkup), ("outer_html", .outerMarkup), ("outer_markup", .outerMarkup)]

/-- The value types, all of which have a name. -/
def valueTypeNames : List (String × ValueType) := [
  ("text", .plain), ("cdata", .cdata), ("datetime", .dateTime)]

theorem Content.ofName?_eq_lookup (name : String) :
    Content.ofName? name = contentNames.lookup name := by
  simp only [contentNames, Fields.lookup_cons_eq_ite, List.lookup_nil]
  unfold Content.ofName?
  split <;> simp_all

theorem ValueType.ofName?_eq_lookup (name : String) :
    ValueType.ofName? name = valueTypeNames.lookup name := by
  simp only [valueTypeNames, Fields.lookup_cons_eq_ite, List.lookup_nil]
  unfold ValueType.ofName?
  split <;> simp_all

/-! ## Records -/

/-- The name of a content mode that is named and not described. -/
def ContentSpec.name? : ContentSpec → Option String
  | named name => some name
  | attr _ => none

/-- A pattern is read whenever its selector can be. -/
theorem Pattern.exists_read_iff {source : String} :
    (∃ pattern, Pattern.read source = .ok pattern) ↔
      ∃ selector, Selector.read source = .ok selector := by
  unfold Pattern.read
  split
  · next selector reads => simp [reads]
  · next fault reads => simp [reads]

theorem Pattern.source_of_read {source : String} {pattern : Pattern}
    (read : Pattern.read source = .ok pattern) : pattern.source = source := by
  unfold Pattern.read at read
  split at read
  · cases read
    rfl
  · cases read

namespace RuleRecord

/-- The selector that is written, if there is one. A text of blanks alone is none. -/
def source? (record : RuleRecord) : Option String :=
  record.selector.filter fun source => !source.toList.all Text.isBlank

/-- A record whose selector can be read and whose names are all known. -/
structure IsValid (record : RuleRecord) (registry : Registry) : Prop where
  selector : ∀ source ∈ record.source?, ∃ selector, Selector.read source = .ok selector
  content : ∀ name ∈ record.content.bind ContentSpec.name?, name ∈ contentNames.map Prod.fst
  valueType : ∀ name ∈ record.valueType, name ∈ valueTypeNames.map Prod.fst
  processor : ∀ name ∈ record.processor, name ∈ registry.processors.names
  filter : ∀ name ∈ record.filter, name ∈ registry.filters.names

/-- The pattern of a record whose selector can be read. -/
def pattern? (record : RuleRecord) : Option Pattern :=
  record.source?.bind fun source => (Pattern.read source).toOption

/-- The content mode of a record; without one it is the text. -/
def contentMode (record : RuleRecord) : Content :=
  match record.content with
  | none => .text
  | some (.attr name) => .attr name
  | some (.named name) => (contentNames.lookup name).getD .text

/-- The rule with the options of a record; what the record leaves out stays as it is in a rule without
options. -/
def built (record : RuleRecord) (registry : Registry) : Rule where
  pattern := record.pattern?
  isAbsolute := record.isAbsolute
  literal := record.literal
  content := record.contentMode
  lead := record.lead
  trail := record.trail
  valueType := (record.valueType.bind fun name => valueTypeNames.lookup name).getD .plain
  processor := record.processor.bind registry.processor?
  filter := record.filter.bind registry.filter?

/-- A name that is looked up in a table has to stand there. -/
theorem resolve_eq_ok_iff {α : Type} {find? : String → Option α} {entries : List (String × α)}
    (finds : ∀ name, find? name = entries.lookup name) {unknown : String → RuleFault}
    {name? : Option String} {found : Option α} :
    resolve find? unknown name? = .ok found ↔
      (∀ name ∈ name?, name ∈ entries.map Prod.fst) ∧ found = name?.bind find? := by
  unfold resolve
  cases name? with
  | none => simp [eq_comm]
  | some name =>
    simp only [Fields.mem_map_fst_iff, finds, Option.bind_some]
    cases there : entries.lookup name <;> simp [there, eq_comm]

/-- The content mode that a record names or describes, the text when there is none. -/
def readContent (record : RuleRecord) : Except RuleFault Content :=
  match record.content with
  | none => .ok .text
  | some content => content.toContent

theorem readContent_eq_ok_iff {record : RuleRecord} {content : Content} :
    record.readContent = .ok content ↔
      (∀ name ∈ record.content.bind ContentSpec.name?, name ∈ contentNames.map Prod.fst) ∧
        content = record.contentMode := by
  unfold readContent contentMode
  cases record.content with
  | none => simp [eq_comm]
  | some written =>
    cases written with
    | attr name => simp [ContentSpec.toContent, ContentSpec.name?, eq_comm]
    | named name =>
      simp only [ContentSpec.toContent, ContentSpec.name?, Content.ofName?_eq_lookup,
        Fields.mem_map_fst_iff, Option.bind_some, Option.mem_some, forall_eq']
      cases found : contentNames.lookup name <;> simp [eq_comm]

theorem details_eq (record : RuleRecord) (registry : Registry) (pattern : Option Pattern) :
    record.details registry pattern = (do
      let content ← record.readContent
      let valueType ← resolve ValueType.ofName? .unknownType record.valueType
      let processor ← resolve registry.processor? .unknownProcessor record.processor
      let filter ← resolve registry.filter? .unknownFilter record.filter
      return {
        pattern, content, processor, filter
        isAbsolute := record.isAbsolute
        literal := record.literal
        lead := record.lead
        trail := record.trail
        valueType := valueType.getD .plain }) := by
  unfold details readContent
  cases record.content <;> rfl

theorem details_eq_ok_iff {record : RuleRecord} {registry : Registry} {pattern : Option Pattern}
    {rule : Rule} :
    record.details registry pattern = .ok rule ↔
      ((∀ name ∈ record.content.bind ContentSpec.name?, name ∈ contentNames.map Prod.fst) ∧
        (∀ name ∈ record.valueType, name ∈ valueTypeNames.map Prod.fst) ∧
        (∀ name ∈ record.processor, name ∈ registry.processors.names) ∧
        (∀ name ∈ record.filter, name ∈ registry.filters.names)) ∧
      rule = { record.built registry with pattern } := by
  have findsType : ∀ name, ValueType.ofName? name = valueTypeNames.lookup name :=
    ValueType.ofName?_eq_lookup
  have findsProcessor : ∀ name, registry.processor? name = registry.processors.toList.lookup name :=
    fun _ => rfl
  have findsFilter : ∀ name, registry.filter? name = registry.filters.toList.lookup name :=
    fun _ => rfl
  have typed : record.valueType.bind ValueType.ofName? =
      record.valueType.bind fun name => valueTypeNames.lookup name := by
    rw [funext findsType]
  rw [details_eq]
  simp only [Except.bind_eq_ok_iff, readContent_eq_ok_iff, resolve_eq_ok_iff findsType,
    resolve_eq_ok_iff findsProcessor, resolve_eq_ok_iff findsFilter, typed]
  constructor
  · rintro ⟨_, ⟨content, rfl⟩, _, ⟨valueType, rfl⟩, _, ⟨processor, rfl⟩, _, ⟨filter, rfl⟩, same⟩
    exact ⟨⟨content, valueType, processor, filter⟩, (Except.ok.inj same).symm⟩
  · rintro ⟨⟨content, valueType, processor, filter⟩, rfl⟩
    exact ⟨_, ⟨content, rfl⟩, _, ⟨valueType, rfl⟩, _, ⟨processor, rfl⟩, _, ⟨filter, rfl⟩, rfl⟩

/-- The rule that the selector of a record alone writes. -/
def selected (record : RuleRecord) : Except Error Rule :=
  match record.selector with
  | some source => Rule.ofSelector source
  | none => .ok {}

theorem compile_eq (record : RuleRecord) (registry : Registry) :
    record.compile registry = record.selected >>= fun rule =>
      (record.details registry rule.pattern).mapError fun fault => .config (.rule none fault) := by
  unfold compile selected
  cases record.selector with
  | none =>
    simp only [bind, Except.bind]
    cases record.details registry none <;> rfl
  | some source =>
    simp only [bind, Except.bind]
    cases Rule.ofSelector source with
    | error fault => rfl
    | ok rule => cases found : record.details registry rule.pattern <;> simp [found, Except.mapError]

/-- The selector of a record is read unless it is blank. -/
theorem selected_eq_ok_iff {record : RuleRecord} {rule : Rule} :
    record.selected = .ok rule ↔
      (∀ source ∈ record.source?, ∃ selector, Selector.read source = .ok selector) ∧
        rule = { pattern := record.pattern? } := by
  unfold selected source? pattern? source?
  cases record.selector with
  | none => simp [eq_comm]
  | some source =>
    by_cases blank : source.toList.all Text.isBlank
    · have empty : (Text.trim source).isEmpty = true := by
        rw [Text.isEmpty_trim_iff]
        exact List.all_eq_true.mp blank
      simp [Rule.ofSelector, empty, blank, Option.filter_some, eq_comm]
    · have more : (Text.trim source).isEmpty = false := by
        rw [Bool.eq_false_iff, ne_eq, Text.isEmpty_trim_iff]
        exact fun all => blank (List.all_eq_true.mpr all)
      have present : (some source).filter (fun source => !source.toList.all Text.isBlank) =
          some source := by
        simp [Option.filter_some, blank]
      simp only [Rule.ofSelector, more, present, Option.mem_some, forall_eq', Option.bind_some,
        ← Pattern.exists_read_iff]
      cases found : Pattern.read source with
      | error fault => simp [bind, Except.bind]
      | ok pattern => simp [bind, Except.bind, pure, Except.pure, Except.toOption, eq_comm]

/-- A record compiles when it is valid, to the rule with its options. -/
theorem compile_eq_ok_iff {record : RuleRecord} {registry : Registry} {rule : Rule} :
    record.compile registry = .ok rule ↔
      record.IsValid registry ∧ rule = record.built registry := by
  rw [compile_eq, Except.bind_eq_ok_iff]
  simp only [Except.mapError_eq_ok_iff, selected_eq_ok_iff, details_eq_ok_iff]
  constructor
  · rintro ⟨_, ⟨selector, rfl⟩, ⟨content, valueType, processor, filter⟩, rfl⟩
    exact ⟨⟨selector, content, valueType, processor, filter⟩, rfl⟩
  · rintro ⟨⟨selector, content, valueType, processor, filter⟩, rfl⟩
    exact ⟨_, ⟨selector, rfl⟩, ⟨content, valueType, processor, filter⟩, rfl⟩

/-- The filter of a valid record's rule is there exactly when the record names one. -/
theorem filter_built_eq_none_iff {record : RuleRecord} {registry : Registry}
    (valid : record.IsValid registry) :
    (record.built registry).filter = none ↔ record.filter = none := by
  cases named : record.filter with
  | none => simp [built, named]
  | some name =>
    have known := valid.filter name named
    rw [Fields.names, Fields.mem_map_fst_iff] at known
    obtain ⟨filter, found⟩ := known
    simp [built, named, Registry.filter?, Fields.get?, found]

/-- The selector of a valid record's rule is the one that is written, with its text. -/
theorem source?_built {record : RuleRecord} {registry : Registry}
    (valid : record.IsValid registry) :
    Rule.source? (record.built registry).toSettings = record.source? := by
  cases written : record.source? with
  | none => simp [Rule.source?, built, pattern?, written]
  | some source =>
    obtain ⟨pattern, read⟩ := Pattern.exists_read_iff.mpr (valid.selector source written)
    have same := Pattern.source_of_read read
    simp [Rule.source?, built, pattern?, written, read, Except.toOption, same]

instance (record : RuleRecord) (registry : Registry) : Decidable (record.IsValid registry) :=
  have (source : String) : Decidable (∃ selector, Selector.read source = .ok selector) :=
    match Selector.read source with
    | .ok selector => isTrue ⟨selector, rfl⟩
    | .error _ => isFalse nofun
  decidable_of_iff
    ((∀ source ∈ record.source?, ∃ selector, Selector.read source = .ok selector) ∧
      (∀ name ∈ record.content.bind ContentSpec.name?, name ∈ contentNames.map Prod.fst) ∧
      (∀ name ∈ record.valueType, name ∈ valueTypeNames.map Prod.fst) ∧
      (∀ name ∈ record.processor, name ∈ registry.processors.names) ∧
      ∀ name ∈ record.filter, name ∈ registry.filters.names)
    ⟨fun ⟨selector, content, valueType, processor, filter⟩ =>
        ⟨selector, content, valueType, processor, filter⟩,
      fun ⟨selector, content, valueType, processor, filter⟩ =>
        ⟨selector, content, valueType, processor, filter⟩⟩

end RuleRecord

/-! ## Rule sets -/

theorem RuleSet.validate_eq_ok_iff (rules : RuleSet) :
    rules.validate = .ok () ↔ ∀ placed ∈ rules.placed, placed.2.filter = none := by
  unfold validate
  split
  · next placed found =>
    have filtered := List.find?_some found
    simp only [reduceCtorEq, false_iff, not_forall]
    exact ⟨placed, List.mem_of_find?_eq_some found, Option.isSome_iff_ne_none.mp filtered⟩
  · next none => simpa using none

namespace RuleSetSpec

/-- The records for the feed and for its entries with their places, and the one for the containers. -/
def placed (spec : RuleSetSpec) : List (RulePlace × RuleRecord) :=
  spec.info.toList.map (fun field => (.info field.1, field.2.toRecord)) ++
    (spec.entry.getD ∅).toList.map (fun field => (.entry field.1, field.2.toRecord)) ++
    spec.entries.toList.map fun rule => (.container, rule.toRecord)

/-- A rule set with rules for entries, in which every record is valid and no record but that for the
containers names a filter. -/
structure IsValid (spec : RuleSetSpec) (registry : Registry) : Prop where
  entry : spec.entry.isSome
  records : ∀ placed ∈ spec.placed, placed.2.IsValid registry
  filters : ∀ placed ∈ spec.placed, placed.1 ≠ .container → placed.2.filter = none

/-- The rules with the options of the records. -/
def built (spec : RuleSetSpec) (registry : Registry) : RuleSet where
  info := spec.info.map fun _ rule => rule.toRecord.built registry
  entry := (spec.entry.getD ∅).map fun _ rule => rule.toRecord.built registry
  container := spec.entries.map fun rule => rule.toRecord.built registry

theorem compileAt_eq_ok_iff {registry : Registry} {place : RulePlace} {spec : RuleSpec}
    {rule : Rule} :
    spec.compileAt registry place = .ok rule ↔
      spec.toRecord.IsValid registry ∧ rule = spec.toRecord.built registry := by
  rw [RuleSpec.compileAt, Except.mapError_eq_ok_iff, RuleRecord.compile_eq_ok_iff]

theorem forall_mem_placed_iff {spec : RuleSetSpec} {holds : RulePlace × RuleRecord → Prop} :
    (∀ placed ∈ spec.placed, holds placed) ↔
      (∀ name rule, spec.info.get? name = some rule → holds (.info name, rule.toRecord)) ∧
      (∀ name rule, (spec.entry.getD ∅).get? name = some rule →
        holds (.entry name, rule.toRecord)) ∧
      ∀ rule, spec.entries = some rule → holds (.container, rule.toRecord) := by
  simp only [placed, List.forall_mem_append, List.forall_mem_map, ← Fields.mem_toList_iff,
    Prod.forall, Option.mem_toList, and_assoc]

/-- The named rules that are built stand where their records do. -/
theorem placed_built (spec : RuleSetSpec) (registry : Registry) :
    (spec.built registry).placed =
      (spec.placed.filter fun placed => placed.1 != .container).map
        fun placed => (placed.1, placed.2.built registry) := by
  have info (name : String) : (RulePlace.info name != .container) = true := rfl
  have entry (name : String) : (RulePlace.entry name != .container) = true := rfl
  simp [RuleSet.placed, placed, built, Fields.map, List.filter_map, Function.comp_def, info, entry]

theorem traverse_compileAt_eq_ok_iff {registry : Registry} {place : String → RulePlace}
    {written : Fields RuleSpec} {rules : Fields Rule} :
    (written.traverse fun name => RuleSpec.compileAt registry (place name)) = .ok rules ↔
      (∀ name rule, written.get? name = some rule → rule.toRecord.IsValid registry) ∧
        rules = written.map fun _ rule => rule.toRecord.built registry := by
  apply Fields.traverse_eq_ok_iff_map
  intro name spec rule
  exact compileAt_eq_ok_iff

/-- Only filters that are named for single rules stand in the way of valid records. -/
theorem validate_built_eq_ok_iff {spec : RuleSetSpec} {registry : Registry}
    (valid : ∀ placed ∈ spec.placed, placed.2.IsValid registry) :
    (spec.built registry).validate = .ok () ↔
      ∀ placed ∈ spec.placed, placed.1 ≠ .container → placed.2.filter = none := by
  rw [RuleSet.validate_eq_ok_iff, placed_built, List.forall_mem_map]
  simp only [List.mem_filter, bne_iff_ne, and_imp]
  constructor
  · intro free placed member named
    exact (RuleRecord.filter_built_eq_none_iff (valid placed member)).mp (free placed member named)
  · intro free placed member named
    exact (RuleRecord.filter_built_eq_none_iff (valid placed member)).mpr (free placed member named)

/-- The rule of the containers is compiled when there is one. -/
def compileContainer (spec : RuleSetSpec) (registry : Registry) : Except Error (Option Rule) :=
  match spec.entries with
  | none => .ok none
  | some rule => some <$> rule.compileAt registry .container

theorem compileContainer_eq_ok_iff {spec : RuleSetSpec} {registry : Registry}
    {container : Option Rule} :
    spec.compileContainer registry = .ok container ↔
      (∀ rule, spec.entries = some rule → rule.toRecord.IsValid registry) ∧
        container = spec.entries.map fun rule => rule.toRecord.built registry := by
  unfold compileContainer
  cases spec.entries with
  | none => simp [eq_comm]
  | some written =>
    simp only [Except.map_eq_ok_iff, compileAt_eq_ok_iff, Option.some.injEq, forall_eq',
      Option.map_some]
    constructor
    · rintro ⟨_, ⟨valid, rfl⟩, rfl⟩
      exact ⟨valid, rfl⟩
    · rintro ⟨valid, rfl⟩
      exact ⟨_, ⟨valid, rfl⟩, rfl⟩

theorem compile_of_entry_eq_none {spec : RuleSetSpec} (absent : spec.entry = none)
    (registry : Registry) : spec.compile registry = .error (.config .missingEntry) := by
  simp only [compile, normalize, absent, Option.map_none]

/-- The rules compile as they are written, although compilation spells out all of them first. -/
theorem compile_eq {spec : RuleSetSpec} {entry : Fields RuleSpec} (present : spec.entry = some entry)
    (registry : Registry) :
    spec.compile registry = (do
      let info ← spec.info.traverse fun name => RuleSpec.compileAt registry (.info name)
      let entry ← entry.traverse fun name => RuleSpec.compileAt registry (.entry name)
      let container ← spec.compileContainer registry
      let rules : RuleSet := { info, entry, container }
      rules.validate
      return rules) := by
  simp only [compile, normalize, compileContainer, present, Option.map_some, Fields.traverse_map]
  cases spec.entries <;> rfl

theorem built_eq {spec : RuleSetSpec} {entry : Fields RuleSpec} (present : spec.entry = some entry)
    (registry : Registry) :
    spec.built registry = {
      info := spec.info.map fun _ rule => rule.toRecord.built registry
      entry := entry.map fun _ rule => rule.toRecord.built registry
      container := spec.entries.map fun rule => rule.toRecord.built registry } := by
  rw [built, present, Option.getD_some]

/-- A rule set compiles when it is valid, to the rules with the options of its records. -/
theorem compile_eq_ok_iff {spec : RuleSetSpec} {registry : Registry} {rules : RuleSet} :
    spec.compile registry = .ok rules ↔ spec.IsValid registry ∧ rules = spec.built registry := by
  cases present : spec.entry with
  | none =>
    have invalid : ¬spec.IsValid registry := fun valid => by simpa [present] using valid.entry
    simp [compile_of_entry_eq_none present, invalid]
  | some entry =>
    rw [compile_eq present]
    simp only [Except.bind_eq_ok_iff, traverse_compileAt_eq_ok_iff, compileContainer_eq_ok_iff]
    constructor
    · rintro ⟨_, ⟨info, rfl⟩, _, ⟨entries, rfl⟩, _, ⟨container, rfl⟩, _, validated, same⟩
      have valid : ∀ placed ∈ spec.placed, placed.2.IsValid registry := by
        rw [forall_mem_placed_iff, present, Option.getD_some]
        exact ⟨info, entries, container⟩
      rw [← built_eq present] at validated same
      cases same
      exact ⟨⟨by simp [present], valid, (validate_built_eq_ok_iff valid).mp validated⟩, rfl⟩
    · rintro ⟨⟨_, valid, filters⟩, rfl⟩
      have validated := (validate_built_eq_ok_iff valid).mpr filters
      rw [forall_mem_placed_iff, present, Option.getD_some] at valid
      obtain ⟨info, entries, container⟩ := valid
      rw [built_eq present] at validated ⊢
      exact ⟨_, ⟨info, rfl⟩, _, ⟨entries, rfl⟩, _, ⟨container, rfl⟩, _, validated, rfl⟩

instance (spec : RuleSetSpec) (registry : Registry) : Decidable (spec.IsValid registry) :=
  decidable_of_iff
    (spec.entry.isSome ∧ (∀ placed ∈ spec.placed, placed.2.IsValid registry) ∧
      ∀ placed ∈ spec.placed, placed.1 ≠ .container → placed.2.filter = none)
    ⟨fun ⟨entry, records, filters⟩ => ⟨entry, records, filters⟩,
      fun ⟨entry, records, filters⟩ => ⟨entry, records, filters⟩⟩

/-- A rule set compiles exactly when it is valid. What comes out has the same names, wraps its entries
exactly when a rule for containers is written, passes validation, and has for every record the rule
with the options of that record, its selector with the text as written. The record of a bare selector
holds this selector and nothing else. -/
theorem compiles_iff_isValid (spec : RuleSetSpec) (registry : Registry) :
    ((∃ rules, spec.compile registry = .ok rules) ↔ spec.IsValid registry) ∧
    (∀ source, (RuleSpec.bare source).toRecord = { selector := some source }) ∧
    (∀ record, (RuleSpec.record record).toRecord = record) ∧
    ∀ rules, spec.compile registry = .ok rules →
      rules.info.names = spec.info.names ∧
      some rules.entry.names = spec.entry.map Fields.names ∧
      rules.isWrapped = spec.entries.isSome ∧
      rules.validate = .ok () ∧
      (∀ name, rules.info.get? name =
        (spec.info.get? name).map fun rule => rule.toRecord.built registry) ∧
      (∀ name, rules.entry.get? name =
        (spec.entry.bind fun entry => entry.get? name).map fun rule =>
          rule.toRecord.built registry) ∧
      rules.container = spec.entries.map (fun rule => rule.toRecord.built registry) ∧
      ∀ placed ∈ spec.placed,
        Rule.source? (placed.2.built registry).toSettings = placed.2.source? := by
  refine ⟨?_, fun _ => rfl, fun _ => rfl, ?_⟩
  · simp only [compile_eq_ok_iff, exists_and_left, exists_eq, and_true]
  · intro rules compiled
    obtain ⟨⟨entryThere, records, filters⟩, rfl⟩ := compile_eq_ok_iff.mp compiled
    obtain ⟨entry, present⟩ := Option.isSome_iff_exists.mp entryThere
    have validated := (validate_built_eq_ok_iff records).mpr filters
    refine ⟨Fields.names_map _ _, ?_, by simp [RuleSet.isWrapped, built], validated,
      fun name => Fields.get?_map _ _ name, ?_, rfl, ?_⟩
    · rw [built_eq present, present, Option.map_some, Fields.names_map]
    · intro name
      rw [built_eq present, present, Option.bind_some, Fields.get?_map]
    · intro placed member
      exact RuleRecord.source?_built (records placed member)

/-- Rules with blank, bare and described parts, and a filter on the containers. -/
def news : RuleSetSpec where
  info := .ofList [("title", .bare "h1"),
    ("home", .record { selector := some " ", literal := some "/", valueType := some "datetime" })]
  entry := some (.ofList [
    ("body", .record { selector := some "div > p", content := some (.named "html") }),
    ("link", .record {
      selector := some "a", content := some (.attr "href")
      lead := some "https://example.com", processor := some "trim" })])
  entries := some (.record { selector := some "article", filter := some "linked" })

/-- The registry with a filter for entries that have a link. -/
def newsRegistry : Registry :=
  Registry.builtin.withFilter "linked" fun entry => (entry.get? "link").isSome

theorem compiles_news : ∃ rules, news.compile newsRegistry = .ok rules ∧
    rules.info.names = ["home", "title"] ∧ rules.isWrapped = true ∧ rules.validate = .ok () := by
  have valid : news.IsValid newsRegistry := by decide +kernel
  have names : news.info.names = ["home", "title"] := by decide +kernel
  obtain ⟨rules, compiled⟩ := (compiles_iff_isValid news newsRegistry).1.mpr valid
  obtain ⟨info, _, wrapped, validated, _⟩ :=
    (compiles_iff_isValid news newsRegistry).2.2.2 rules compiled
  exact ⟨rules, compiled, info.trans names, wrapped.trans rfl, validated⟩

end RuleSetSpec

end PageFeed
