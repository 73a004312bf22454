import Mathlib.Data.List.Forall2
import PageFeed.Extraction.Extractor
import PageFeed.Proofs.Extraction.Independence

/-! Options without effect. A literal makes all other options of its rule idle. A filter acts on
containers alone, a rule for the feed looks at the page as a whole whether it is absolute or not, and a
rule for containers only finds and filters. Rule sets that differ in idle options, and no processor that
looks at the rule, find the same feed in every page. -/

namespace PageFeed

open Html (Document NodeId)

namespace Rule

/-- The processor of a rule does the same to a text whatever rule it is given. -/
def IgnoresSettings (rule : Rule) : Prop :=
  ∀ processor ∈ rule.processor, ∀ (settings other : Settings) (text : String),
    processor settings text = processor other text

theorem ignoresSettings_of_none {rule : Rule} (plain : rule.processor = none) :
    rule.IgnoresSettings := by
  intro processor held
  rw [plain] at held
  cases held

/-- What is idle in a rule for the feed. -/
def clearForFeed (rule : Rule) : Rule := { rule with isAbsolute := false, filter := none }

/-- What is idle in a rule for entries. -/
def clearForEntries (rule : Rule) : Rule := { rule with filter := none }

/-- Both rules have the same literal, or both have none and are equal but for what is cleared. -/
def AgreesUpTo (clear : Rule → Rule) (first second : Rule) : Prop :=
  (∃ literal, first.literal = some literal ∧ second.literal = some literal) ∨
    (first.literal = none ∧ second.literal = none ∧ clear first = clear second)

def AgreesAsContainer (first second : Rule) : Prop :=
  first.pattern = second.pattern ∧ first.filter = second.filter

variable {first second : Rule} (dates : Moment.Reader) (document : Document)

theorem clearForFeed_eq (same : clearForEntries first = clearForEntries second) :
    clearForFeed first = clearForFeed second :=
  congrArg (fun rule : Rule => { rule with isAbsolute := false }) same

/-- The final text does not depend on where a rule stands and what is idle there. -/
theorem format_eq_of_ignoresSettings (ignores : first.IgnoresSettings)
    (same : clearForFeed first = clearForFeed second) :
    first.format dates document = second.format dates document := by
  have content : first.content = second.content := (congrArg (·.content) same :)
  have processor : first.processor = second.processor := (congrArg (·.processor) same :)
  have wrapped : first.wrap = second.wrap := (congrArg (·.wrap) same :)
  have valueType : first.valueType = second.valueType := (congrArg (·.valueType) same :)
  have processed (text : String) : first.process text = second.process text := by
    unfold process
    rw [← processor]
    cases held : first.processor with
    | none => rfl
    | some processor => exact ignores processor held first.toSettings second.toSettings text
  funext id
  rw [format, format, processed, wrapped, content, valueType]

theorem matchesIn_eq (same : first.pattern = second.pattern) :
    first.matchesIn document = second.matchesIn document := by
  rw [matchesIn, matchesIn, same]

theorem textOfFirst_eq (ignores : first.IgnoresSettings)
    (same : clearForFeed first = clearForFeed second) :
    first.textOfFirst dates document = second.textOfFirst dates document := by
  funext found
  cases found with
  | nil => rfl
  | cons id _ => exact congrFun (format_eq_of_ignoresSettings dates document ignores same) id

theorem pageText_eq (ignores : first.IgnoresSettings) (agrees : AgreesUpTo clearForFeed first second) :
    first.pageText dates document = second.pageText dates document := by
  rcases agrees with ⟨literal, inFirst, inSecond⟩ | ⟨noFirst, noSecond, same⟩
  · rw [pageText, pageText, inFirst, inSecond]
    rfl
  · have pattern : first.pattern = second.pattern := (congrArg (·.pattern) same :)
    rw [pageText, pageText, noFirst, noSecond, textOfFirst_eq dates document ignores same,
      matchesIn_eq document pattern]

theorem textIn_eq (ignores : first.IgnoresSettings)
    (agrees : AgreesUpTo clearForEntries first second) (container : NodeId) :
    first.textIn dates document container = second.textIn dates document container := by
  rcases agrees with ⟨literal, inFirst, inSecond⟩ | ⟨noFirst, noSecond, same⟩
  · simp only [textIn, inFirst, inSecond]
  · have idle := clearForFeed_eq same
    have isAbsolute : first.isAbsolute = second.isAbsolute := (congrArg (·.isAbsolute) same :)
    have pattern : first.pattern = second.pattern := (congrArg (·.pattern) same :)
    unfold textIn
    simp only [noFirst, noSecond, isAbsolute, pattern, matchesIn_eq document pattern,
      textOfFirst_eq dates document ignores idle,
      format_eq_of_ignoresSettings dates document ignores idle]

theorem take_eq_of_agrees (ignores : first.IgnoresSettings)
    (agrees : AgreesUpTo clearForEntries first second) (alignment : Extraction.Alignment)
    (name : String) :
    alignment.take dates document (name, first) = alignment.take dates document (name, second) := by
  rcases agrees with ⟨literal, inFirst, inSecond⟩ | ⟨noFirst, noSecond, same⟩
  · simp only [Extraction.Alignment.take, inFirst, inSecond]
  · have idle := clearForFeed_eq same
    have isAbsolute : first.isAbsolute = second.isAbsolute := (congrArg (·.isAbsolute) same :)
    have pattern : first.pattern = second.pattern := (congrArg (·.pattern) same :)
    simp only [Extraction.Alignment.take, noFirst, noSecond, isAbsolute, firstText_eq_textOfFirst,
      matchesIn_eq document pattern, textOfFirst_eq dates document ignores idle,
      format_eq_of_ignoresSettings dates document ignores idle]

end Rule

namespace Extraction

/-- The same names, and under each of them rules that agree. -/
def RulesAgree (clear : Rule → Rule) : (first second : List (String × Rule)) → Prop :=
  List.Forall₂ fun field other => field.1 = other.1 ∧ Rule.AgreesUpTo clear field.2 other.2

variable (dates : Moment.Reader) (document : Document)

section Rules

variable {first second : List (String × Rule)}
  (ignores : ∀ field ∈ first, field.2.IgnoresSettings)

include ignores

theorem map_eq_of_rulesAgree {clear : Rule → Rule} (agree : RulesAgree clear first second)
    {text : Rule → String} (same : ∀ rule other : Rule, rule.IgnoresSettings →
      Rule.AgreesUpTo clear rule other → text rule = text other) :
    first.map (fun field => (field.1, text field.2)) =
      second.map fun field => (field.1, text field.2) := by
  -- One relation over both lists carries what the step needs to know of the first one.
  have related := (List.forall₂_and_left _ _).2 ⟨ignores, agree⟩
  clear ignores agree
  induction related with
  | nil => rfl
  | cons head _ ih =>
    obtain ⟨ignores, named, agrees⟩ := head
    rw [List.map_cons, List.map_cons, ih, named, same _ _ ignores agrees]

/-- Rules that agree take an alignment, one by one, from the same state to the same state. -/
theorem foldl_take_eq_of_rulesAgree (agree : RulesAgree Rule.clearForEntries first second)
    (alignment : Alignment) :
    first.foldl (Alignment.take dates document) alignment =
      second.foldl (Alignment.take dates document) alignment := by
  have related := (List.forall₂_and_left _ _).2 ⟨ignores, agree⟩
  clear ignores agree
  induction related generalizing alignment with
  | nil => rfl
  | @cons field other _ _ head _ ih =>
    obtain ⟨name, rule⟩ := field
    obtain ⟨_, other⟩ := other
    obtain ⟨ignores, rfl, agrees⟩ := head
    rw [List.foldl_cons, List.foldl_cons, ih,
      Rule.take_eq_of_agrees dates document ignores agrees alignment name]

end Rules

variable {first second : Fields Rule} (ignores : ∀ field ∈ first.toList, field.2.IgnoresSettings)

include ignores

theorem info_eq_of_rulesAgree (agree : RulesAgree Rule.clearForFeed first.toList second.toList) :
    info dates document first = info dates document second := by
  rw [info_eq_map, info_eq_map]
  apply Fields.ext_toList
  exact map_eq_of_rulesAgree ignores agree fun _ _ ignores agrees =>
    Rule.pageText_eq dates document ignores agrees

theorem unwrapped_eq_of_rulesAgree
    (agree : RulesAgree Rule.clearForEntries first.toList second.toList) :
    unwrapped dates document first = unwrapped dates document second := by
  rw [unwrapped, unwrapped, align, align, foldl_take_eq_of_rulesAgree dates document ignores agree]

theorem wrapped_eq_of_rulesAgree
    (agree : RulesAgree Rule.clearForEntries first.toList second.toList) {container other : Rule}
    (sameContainer : container.AgreesAsContainer other) :
    wrapped dates document first container = wrapped dates document second other := by
  obtain ⟨pattern, filter⟩ := sameContainer
  have made (element : NodeId) :
      entryOf dates document first (absolutes dates document first) element =
        entryOf dates document second (absolutes dates document second) element := by
    rw [entryOf_absolutes, entryOf_absolutes]
    apply Fields.ext_toList
    exact map_eq_of_rulesAgree ignores agree fun _ _ ignores agrees =>
      Rule.textIn_eq dates document ignores agrees element
  have entries : (container.matchesIn document).map
        (entryOf dates document first (absolutes dates document first)) =
      (other.matchesIn document).map
        (entryOf dates document second (absolutes dates document second)) := by
    rw [Rule.matchesIn_eq document pattern]
    exact List.map_congr_left fun element _ => made element
  rw [wrapped, wrapped, entries, filter]

end Extraction

/-- Two rule sets that differ in nothing that has an effect. -/
structure RuleSet.Agrees (first second : RuleSet) : Prop where
  info : Extraction.RulesAgree Rule.clearForFeed first.info.toList second.info.toList
  entry : Extraction.RulesAgree Rule.clearForEntries first.entry.toList second.entry.toList
  container : Option.Rel Rule.AgreesAsContainer first.container second.container

theorem Extraction.entries_eq_of_agrees {first second : RuleSet} (agrees : first.Agrees second)
    (ignores : ∀ field ∈ first.entry.toList, field.2.IgnoresSettings) (dates : Moment.Reader)
    (document : Document) :
    entries dates document first = entries dates document second := by
  obtain ⟨_, rules, container⟩ := first
  obtain ⟨_, others, other⟩ := second
  have agree : RulesAgree Rule.clearForEntries rules.toList others.toList := agrees.entry
  have containers : Option.Rel Rule.AgreesAsContainer container other := agrees.container
  cases containers with
  | none => exact unwrapped_eq_of_rulesAgree dates document ignores agree
  | some same => exact wrapped_eq_of_rulesAgree dates document ignores agree same

/-- Rule sets that differ in idle options find the same feed in every page, as long as no processor
looks at the rule. -/
theorem Extractor.extract_eq_of_agrees {first second : RuleSet} (agrees : first.Agrees second)
    (ignores : ∀ field ∈ first.info.toList ++ first.entry.toList, field.2.IgnoresSettings)
    (dates : Moment.Reader) (document : Document) :
    Extractor.extract ⟨first, dates⟩ document = Extractor.extract ⟨second, dates⟩ document := by
  obtain ⟨infoIgnores, entryIgnores⟩ := List.forall_mem_append.1 ignores
  have info := Extraction.info_eq_of_rulesAgree dates document infoIgnores agrees.info
  have entries := Extraction.entries_eq_of_agrees agrees entryIgnores dates document
  rw [extract, extract, info, entries]

namespace Extraction

/-- The paragraphs of a page but those with the headline `A`. -/
def otherParagraph : Rule :=
  { paragraph with filter := some fun entry => entry.get? "title" != some "A" }

def squishedHeadline : Rule := { headline with processor := some fun _ => Text.squish }

def briefing : RuleSet where
  info := .ofList [("date", stamp), ("site", .ofLiteral "News")]
  entry := .ofList [("kind", .ofLiteral "item"), ("title", squishedHeadline)]
  container := some otherParagraph

/-- The same with options everywhere that have no effect there. -/
def idleBriefing : RuleSet where
  info := .ofList [
    ("date", { stamp with isAbsolute := false, filter := some fun _ => false }),
    ("site", { headline with literal := some "News", isAbsolute := true, valueType := .dateTime })]
  entry := .ofList [
    ("kind", { stamp with literal := some "item", lead := some "-" }),
    ("title", { squishedHeadline with filter := some fun _ => false })]
  container := some { otherParagraph with
    literal := some "?", isAbsolute := true, content := .outerMarkup, valueType := .cdata }

theorem agrees_idleBriefing : briefing.Agrees idleBriefing where
  info := .cons ⟨rfl, .inr ⟨rfl, rfl, rfl⟩⟩ (.cons ⟨rfl, .inl ⟨"News", rfl, rfl⟩⟩ .nil)
  entry := .cons ⟨rfl, .inl ⟨"item", rfl, rfl⟩⟩ (.cons ⟨rfl, .inr ⟨rfl, rfl, rfl⟩⟩ .nil)
  container := .some ⟨rfl, rfl⟩

theorem ignoresSettings_briefing :
    ∀ field ∈ briefing.info.toList ++ briefing.entry.toList, field.2.IgnoresSettings := by
  have listed : briefing.info.toList ++ briefing.entry.toList = [("date", stamp),
      ("site", .ofLiteral "News"), ("kind", .ofLiteral "item"), ("title", squishedHeadline)] := rfl
  rw [listed]
  simp only [List.forall_mem_cons, List.not_mem_nil, IsEmpty.forall_iff, implies_true, and_true]
  refine ⟨Rule.ignoresSettings_of_none rfl, Rule.ignoresSettings_of_none rfl,
    Rule.ignoresSettings_of_none rfl, ?_⟩
  intro processor held settings other text
  cases held
  rfl

theorem extract_idleBriefing :
    Extractor.extract ⟨briefing, Moment.read?⟩ frontPage =
      Extractor.extract ⟨idleBriefing, Moment.read?⟩ frontPage :=
  Extractor.extract_eq_of_agrees agrees_idleBriefing ignoresSettings_briefing Moment.read? frontPage

end Extraction

end PageFeed
