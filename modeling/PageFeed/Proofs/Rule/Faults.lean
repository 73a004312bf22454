import PageFeed.Proofs.Rule.Compilation

/-! The faults of a written rule set, in the order in which they are reported. A rule set without
rules for entries is reported as such whatever else is wrong with it; then come the faults of the
records, those of the feed before those of the entries and these before the one for the containers, and
at the end the filters that stand at single rules. Compilation reports the first of them and builds the
rules when there is none. -/

namespace PageFeed

/-! ## Records -/

theorem Pattern.read_of_error {source : String} {fault : Selector.Fault}
    (refused : Selector.read source = .error fault) :
    Pattern.read source = .error (.selector source fault) := by
  unfold Pattern.read
  split
  · next reads =>
    rw [refused] at reads
    cases reads
  · next other reads =>
    rw [refused] at reads
    cases reads
    rfl

namespace RuleRecord

/-- A selector that is written is more than blanks. -/
theorem source?_eq_some_iff {record : RuleRecord} {source : String} :
    record.source? = some source ↔
      record.selector = some source ∧ source.toList.all Text.isBlank = false := by
  simp [source?, Option.filter_eq_some_iff]

/-- The fault of a selector that cannot be read, with the text as it is written. -/
def selectorFaults (record : RuleRecord) : List Error :=
  match record.source? with
  | none => []
  | some source =>
    match Selector.read source with
    | .ok _ => []
    | .error fault => [.selector source fault]

/-- The fault of a name that is not among the known ones. -/
def unknownName (known : List String) (fault : String → RuleFault) (name? : Option String) :
    List RuleFault :=
  (name?.toList.filter fun name => name ∉ known).map fault

theorem unknownName_some {α : Type} (entries : List (String × α)) (fault : String → RuleFault)
    (name : String) :
    unknownName (entries.map Prod.fst) fault (some name) =
      if (entries.lookup name).isSome then [] else [fault name] := by
  have known : name ∈ entries.map Prod.fst ↔ (entries.lookup name).isSome := by
    rw [Fields.mem_map_fst_iff, Option.isSome_iff_exists]
  split
  · next there => simp [unknownName, known.mpr there]
  · next absent => simp [unknownName, mt known.mp absent]

theorem resolve_eq_ofFaults {α : Type} {find? : String → Option α} {entries : List (String × α)}
    (finds : ∀ name, find? name = entries.lookup name) (unknown : String → RuleFault)
    (name? : Option String) :
    resolve find? unknown name? =
      Except.ofFaults (unknownName (entries.map Prod.fst) unknown name?) (name?.bind find?) := by
  unfold resolve
  cases name? with
  | none => rfl
  | some name =>
    simp only [unknownName_some, Option.bind_some, finds]
    cases entries.lookup name <;> rfl

/-- The fault of the content mode. -/
def contentFaults (record : RuleRecord) : List RuleFault :=
  unknownName (contentNames.map Prod.fst) .unknownContent
    (record.content.bind ContentSpec.name?)

theorem readContent_eq_ofFaults (record : RuleRecord) :
    record.readContent = Except.ofFaults record.contentFaults record.contentMode := by
  unfold readContent contentMode contentFaults
  cases record.content with
  | none => rfl
  | some written =>
    cases written with
    | attr name => rfl
    | named name =>
      simp only [Option.bind_some, ContentSpec.name?, unknownName_some, ContentSpec.toContent,
        Content.ofName?_eq_lookup]
      cases contentNames.lookup name <;> rfl

/-- The faults of the names in a record, that of the content mode first and that of the filter
last. -/
def nameFaults (record : RuleRecord) (registry : Registry) : List RuleFault :=
  record.contentFaults ++
    (unknownName (valueTypeNames.map Prod.fst) .unknownType record.valueType ++
      (unknownName registry.processors.names .unknownProcessor record.processor ++
        unknownName registry.filters.names .unknownFilter record.filter))

/-- The names of a record are looked at one after the other. -/
theorem details_eq_ofFaults (record : RuleRecord) (registry : Registry) (pattern : Option Pattern) :
    record.details registry pattern =
      Except.ofFaults (record.nameFaults registry) { record.built registry with pattern } := by
  have findsProcessor (name : String) :
      registry.processor? name = registry.processors.toList.lookup name := rfl
  have findsFilter (name : String) :
      registry.filter? name = registry.filters.toList.lookup name := rfl
  rw [details_eq, readContent_eq_ofFaults]
  refine Except.ofFaults_bind fun _ => ?_
  rw [resolve_eq_ofFaults ValueType.ofName?_eq_lookup]
  refine Except.ofFaults_bind fun _ => ?_
  rw [resolve_eq_ofFaults findsProcessor]
  refine Except.ofFaults_bind fun _ => ?_
  rw [resolve_eq_ofFaults findsFilter, funext ValueType.ofName?_eq_lookup]
  exact Except.ofFaults_bind_ok rfl

theorem selected_eq_ofFaults (record : RuleRecord) :
    record.selected = Except.ofFaults record.selectorFaults { pattern := record.pattern? } := by
  cases written : record.source? with
  | none =>
    have readable : ∀ other ∈ record.source?, ∃ selector, Selector.read other = .ok selector := by
      simp [written]
    rw [selectorFaults, written]
    exact selected_eq_ok_iff.mpr ⟨readable, rfl⟩
  | some source =>
    cases reads : Selector.read source with
    | ok selector =>
      have readable : ∀ other ∈ record.source?, ∃ selector, Selector.read other = .ok selector := by
        rintro _ found
        cases written ▸ found
        exact ⟨selector, reads⟩
      simp only [selectorFaults, written, reads]
      exact selected_eq_ok_iff.mpr ⟨readable, rfl⟩
    | error fault =>
      obtain ⟨there, notBlank⟩ := source?_eq_some_iff.mp written
      have kept : (Text.trim source).isEmpty = false := by
        rw [Bool.eq_false_iff, ne_eq, Text.isEmpty_trim_iff, ← List.all_eq_true, notBlank]
        exact Bool.false_ne_true
      simp only [selectorFaults, written, reads, selected, there, Rule.ofSelector, kept,
        Pattern.read_of_error reads]
      rfl

/-- The faults of a record: that of its selector, then those of its names. -/
def faults (record : RuleRecord) (registry : Registry) : List Error :=
  record.selectorFaults ++ (record.nameFaults registry).map fun fault => .config (.rule none fault)

/-- The first fault of a record is the one that its compilation reports. -/
theorem compile_eq_ofFaults (record : RuleRecord) (registry : Registry) :
    record.compile registry = Except.ofFaults (record.faults registry) (record.built registry) := by
  rw [compile_eq, selected_eq_ofFaults]
  refine Except.ofFaults_bind fun _ => ?_
  rw [details_eq_ofFaults, Except.mapError_ofFaults]
  rfl

theorem faults_eq_nil_iff {record : RuleRecord} {registry : Registry} :
    record.faults registry = [] ↔ record.IsValid registry := by
  have sound : record.compile registry = .ok (record.built registry) ↔ _ := compile_eq_ok_iff
  rw [compile_eq_ofFaults, Except.ofFaults_eq_ok_iff] at sound
  simpa using sound

end RuleRecord

/-! ## Rule sets -/

/-- Validation reports the first rule with a filter. -/
theorem RuleSet.validate_eq_ofFaults (rules : RuleSet) :
    rules.validate = Except.ofFaults
      ((rules.placed.filter fun placed => placed.2.filter.isSome).map
        fun placed => .config (.misplacedFilter placed.1)) () := by
  unfold validate
  rw [← List.head?_filter]
  cases rules.placed.filter fun placed => placed.2.filter.isSome <;> rfl

namespace RuleSetSpec

/-- The faults of the record at a place. Those of names say where the record stands, that of a
selector does not. -/
def recordFaults (registry : Registry) (placed : RulePlace × RuleRecord) : List Error :=
  placed.2.selectorFaults ++
    (placed.2.nameFaults registry).map fun fault => .config (.rule (some placed.1) fault)

/-- Filters at single rules. -/
def filterFaults (spec : RuleSetSpec) : List Error :=
  (spec.placed.filter fun placed => placed.1 != .container && placed.2.filter.isSome).map
    fun placed => .config (.misplacedFilter placed.1)

/-- The faults of a rule set, in the order in which they are looked for. -/
def faults (spec : RuleSetSpec) (registry : Registry) : List Error :=
  (if spec.entry.isSome then [] else [.config .missingEntry]) ++
    (spec.placed.flatMap (recordFaults registry) ++ spec.filterFaults)

theorem selectorFaults_at (place : RulePlace) (record : RuleRecord) :
    record.selectorFaults.map (Error.at place) = record.selectorFaults := by
  unfold RuleRecord.selectorFaults
  split
  · rfl
  · split <;> rfl

/-- The faults of a record at a place are those that the record has anywhere. -/
theorem recordFaults_eq_map (registry : Registry) (placed : RulePlace × RuleRecord) :
    recordFaults registry placed = (placed.2.faults registry).map (Error.at placed.1) := by
  rw [RuleRecord.faults, List.map_append, selectorFaults_at, List.map_map]
  rfl

theorem recordFaults_eq_nil_iff {registry : Registry} {placed : RulePlace × RuleRecord} :
    recordFaults registry placed = [] ↔ placed.2.IsValid registry := by
  rw [recordFaults_eq_map, List.map_eq_nil_iff, RuleRecord.faults_eq_nil_iff]

theorem compileAt_eq_ofFaults (registry : Registry) (place : RulePlace) (spec : RuleSpec) :
    spec.compileAt registry place =
      Except.ofFaults (recordFaults registry (place, spec.toRecord))
        (spec.toRecord.built registry) := by
  rw [RuleSpec.compileAt, RuleRecord.compile_eq_ofFaults, Except.mapError_ofFaults,
    recordFaults_eq_map]

theorem compileContainer_eq_ofFaults (spec : RuleSetSpec) (registry : Registry) :
    spec.compileContainer registry = Except.ofFaults
      (spec.entries.toList.flatMap fun rule => recordFaults registry (.container, rule.toRecord))
      (spec.entries.map fun rule => rule.toRecord.built registry) := by
  unfold compileContainer
  cases spec.entries with
  | none => rfl
  | some rule =>
    simp only [compileAt_eq_ofFaults, Except.map_ofFaults, Option.toList_some,
      List.flatMap_singleton, Option.map_some]

theorem validate_built_eq_ofFaults {spec : RuleSetSpec} {registry : Registry}
    (valid : ∀ placed ∈ spec.placed, placed.2.IsValid registry) :
    (spec.built registry).validate = Except.ofFaults spec.filterFaults () := by
  have sameFilter : ∀ placed ∈ spec.placed,
      (placed.2.built registry).filter.isSome = placed.2.filter.isSome := by
    intro placed member
    have unfiltered := RuleRecord.filter_built_eq_none_iff (valid placed member)
    rw [Bool.eq_iff_iff, Option.isSome_iff_ne_none, Option.isSome_iff_ne_none, ne_eq, ne_eq,
      unfiltered]
  rw [RuleSet.validate_eq_ofFaults, placed_built, filterFaults, List.filter_map, List.map_map,
    List.filter_filter]
  congr 2
  refine List.filter_congr fun placed member => ?_
  rw [Bool.and_comm, Function.comp_apply, sameFilter placed member]

/-- The faults of the records, section by section. -/
theorem flatMap_placed {spec : RuleSetSpec} {entry : Fields RuleSpec}
    (present : spec.entry = some entry) (faultsAt : RulePlace × RuleRecord → List Error) :
    spec.placed.flatMap faultsAt =
      (spec.info.toList.flatMap fun field => faultsAt (.info field.1, field.2.toRecord)) ++
        ((entry.toList.flatMap fun field => faultsAt (.entry field.1, field.2.toRecord)) ++
          spec.entries.toList.flatMap fun rule => faultsAt (.container, rule.toRecord)) := by
  simp [placed, present, List.flatMap_map]

/-- Compilation reports the first fault, and builds the rules when there is none. -/
theorem compile_eq_ofFaults (spec : RuleSetSpec) (registry : Registry) :
    spec.compile registry = Except.ofFaults (spec.faults registry) (spec.built registry) := by
  cases present : spec.entry with
  | none => simp [compile_of_entry_eq_none present, faults, present, Except.ofFaults]
  | some entry =>
    have sections := flatMap_placed present (recordFaults registry)
    -- validation comes last and takes place only where no record has a fault
    have valid (none : spec.placed.flatMap (recordFaults registry) = []) :
        ∀ placed ∈ spec.placed, placed.2.IsValid registry := fun placed member =>
      recordFaults_eq_nil_iff.mp (List.flatMap_eq_nil_iff.mp none placed member)
    rw [compile_eq present, faults, present, Option.isSome_some, if_pos rfl, List.nil_append]
    rw [sections] at valid ⊢
    simp only [List.append_assoc]
    rw [Fields.traverse_eq_ofFaults fun name => compileAt_eq_ofFaults registry (.info name)]
    refine Except.ofFaults_bind fun noInfo => ?_
    rw [Fields.traverse_eq_ofFaults fun name => compileAt_eq_ofFaults registry (.entry name)]
    refine Except.ofFaults_bind fun noEntry => ?_
    rw [compileContainer_eq_ofFaults]
    refine Except.ofFaults_bind fun noContainer => ?_
    have validated := validate_built_eq_ofFaults (valid (by rw [noInfo, noEntry, noContainer]; rfl))
    rw [built_eq present] at validated ⊢
    simp only [validated]
    exact Except.ofFaults_bind_ok rfl

end RuleSetSpec

end PageFeed
