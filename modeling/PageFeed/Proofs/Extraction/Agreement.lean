import Mathlib.Order.Basic
import PageFeed.Proofs.Extraction.Independence

/-! Two ways to the same entries. Entries of containers are made up one by one, entries without
containers column by column. Both ways lead to the same list when the column of every relative field
is what the field has in one container after the other: the other fields have one text anywhere, and
the columns are as high as there are containers. This is so on a page with one item of every field in
each container, and it is so on every page when the fields take the containers themselves. -/

namespace PageFeed

open Html (Document NodeId)

namespace Rule

variable (dates : Moment.Reader) (document : Document) (rule : Rule)

/-- The first element that a rule finds below a container. -/
def firstBelow? (container : NodeId) : Option NodeId :=
  rule.pattern.bind fun pattern => (pattern.selector.selectBelow document container).head?

/-- A rule whose processor does the same to a text whatever the selector of the rule is. -/
def IgnoresPattern : Prop :=
  ∀ processor ∈ rule.processor, ∀ (settings : Settings) (pattern : Option Pattern) (text : String),
    processor { settings with pattern } text = processor settings text

/-- A relative rule with another selector; any other rule stays as it is. -/
def seeking (pattern : Option Pattern) : Rule :=
  if rule.isRelative then { rule with pattern } else rule

variable {rule}

theorem textIn_of_firstBelow? (relative : rule.isRelative) {container id : NodeId}
    (found : rule.firstBelow? document container = some id) :
    rule.textIn dates document container = rule.format dates document id := by
  obtain ⟨noLiteral, notAbsolute⟩ := rule.isRelative_iff.1 relative
  obtain ⟨pattern, hasPattern, first⟩ := Option.bind_eq_some_iff.1 found
  rw [Selector.selectBelow, document.below_eq] at first
  simp only [textIn, noLiteral, notAbsolute, hasPattern, ← formatOptional_head?, first,
    formatOptional]

theorem textIn_of_bare (relative : rule.isRelative) (bare : rule.pattern = none)
    (container : NodeId) :
    rule.textIn dates document container = rule.format dates document container := by
  obtain ⟨noLiteral, notAbsolute⟩ := rule.isRelative_iff.1 relative
  simp only [textIn, noLiteral, notAbsolute, bare]

theorem seeking_of_relative (relative : rule.isRelative) (pattern : Option Pattern) :
    rule.seeking pattern = { rule with pattern } := if_pos relative

theorem format_of_ignoresPattern (ignores : rule.IgnoresPattern) (pattern : Option Pattern)
    (id : NodeId) :
    { rule with pattern }.format dates document id = rule.format dates document id := by
  have processed (text : String) : { rule with pattern }.process text = rule.process text := by
    unfold process
    cases held : rule.processor with
    | none => rfl
    | some processor => exact ignores processor held rule.toSettings pattern text
  unfold format
  rw [processed]
  rfl

/-- With one item of a relative rule per container, its matches have the texts that it has in the
containers. -/
theorem map_format_of_items (relative : rule.isRelative) {containers : List NodeId}
    (items : (rule.matchesIn document).map some = containers.map (rule.firstBelow? document)) :
    (rule.matchesIn document).map (rule.format dates document) =
      containers.map (rule.textIn dates document) := by
  calc (rule.matchesIn document).map (rule.format dates document)
    _ = ((rule.matchesIn document).map some).map (rule.formatOptional dates document) := by
      rw [List.map_map]
      rfl
    _ = containers.map fun container =>
          rule.formatOptional dates document (rule.firstBelow? document container) := by
      rw [items, List.map_map]
      rfl
    _ = containers.map (rule.textIn dates document) := by
      apply List.map_congr_left
      intro container member
      -- The lists are equal, so no container is without an item.
      have held : rule.firstBelow? document container ∈ (rule.matchesIn document).map some :=
        items ▸ List.mem_map_of_mem member
      obtain ⟨id, _, first⟩ := List.mem_map.1 held
      rw [← first, textIn_of_firstBelow? dates document relative first.symm]
      rfl

/-- A rule and what is put in its place have the same text in a container and at its place, when only
a relative rule is replaced, by one whose column is the list of the texts in the containers. -/
theorem textAt?_eq_some_textIn {changed : Rule} {containers : List NodeId}
    (stays : rule.isRelative = false → changed = rule)
    (column : rule.isRelative → changed.isRelative ∧
      (changed.matchesIn document).map (changed.format dates document) =
        containers.map (rule.textIn dates document))
    {place : Nat} (inside : place < containers.length) :
    changed.textAt? dates document place = some (rule.textIn dates document containers[place]) := by
  cases relative : rule.isRelative with
  | false =>
    have pageWide := rule.isRelative_eq_false_iff.1 relative
    rw [stays relative, rule.textIn_of_pageWide dates document pageWide,
      rule.textAt?_of_pageWide dates document pageWide]
  | true =>
    obtain ⟨isColumn, texts⟩ := column relative
    rw [textAt?_of_relative dates document changed isColumn, texts, List.getElem?_map,
      List.getElem?_eq_getElem inside, Option.map_some]

end Rule

namespace Extraction

variable (dates : Moment.Reader) (document : Document)

/-- When all relative rules have the same number of matches, the columns have this height. -/
theorem columnHeight_eq {rules : List (String × Rule)} {count : Nat}
    (someRelative : ∃ field ∈ rules, field.2.isRelative)
    (counted : ∀ field ∈ rules, field.2.isRelative →
      (field.2.matchesIn document).length = count) :
    columnHeight document rules = count := by
  apply eq_of_forall_lt_iff
  intro place
  rw [lt_columnHeight_iff]
  constructor
  · rintro ⟨field, member, relative, inside⟩
    exact counted field member relative ▸ inside
  · intro inside
    obtain ⟨field, member, relative⟩ := someRelative
    exact ⟨field, member, relative, (counted field member relative).symm ▸ inside⟩

/-- Entries of containers are those that changed rules have without containers, when the change
concerns relative rules alone and gives each of them, as its column, the texts that it had in the
containers. -/
theorem wrapped_eq_unwrapped_map {rules : Fields Rule} {container : Rule}
    (unfiltered : container.filter = none) (change : Rule → Rule)
    (someRelative : ∃ field ∈ rules.toList, field.2.isRelative)
    (stays : ∀ rule : Rule, rule.isRelative = false → change rule = rule)
    (columns : ∀ field ∈ rules.toList, field.2.isRelative →
      (change field.2).isRelative ∧
      ((change field.2).matchesIn document).map ((change field.2).format dates document) =
        (container.matchesIn document).map (field.2.textIn dates document)) :
    wrapped dates document rules container =
      unwrapped dates document (rules.map fun _ rule => change rule) := by
  have height : columnHeight document (rules.map fun _ rule => change rule).toList =
      (container.matchesIn document).length := by
    apply columnHeight_eq
    · obtain ⟨field, member, relative⟩ := someRelative
      exact ⟨_, List.mem_map_of_mem member, (columns field member relative).1⟩
    · intro changed member relative
      obtain ⟨field, held, rfl⟩ := List.mem_map.1 member
      -- What is relative after the change was so before, for all other rules stay as they are.
      cases was : field.2.isRelative with
      | false => simp [stays field.2 was, was] at relative
      | true => simpa using congrArg List.length (columns field held was).2
  apply Fields.ext_columns
  intro name
  rw [map_get?_wrapped dates document rules unfiltered, map_get?_unwrapped, height,
    Fields.get?_map]
  cases found : rules.get? name with
  | none => simp
  | some rule =>
    have member := (rules.mem_toList_iff name rule).2 found
    apply List.ext_getElem
    · rw [List.length_map, List.length_map, List.length_range]
    · intro place inside _
      rw [List.length_map] at inside
      rw [List.getElem_map, List.getElem_map, List.getElem_range]
      exact (Rule.textAt?_eq_some_textIn dates document (stays rule) (columns _ member) inside).symm

/-- With one item per container both ways lead to the same entries: each relative rule finds in the
page, in order, what it finds first below each of the containers. A rule without a selector finds
nothing, so there it can only stand when there are no containers. -/
theorem wrapped_eq_unwrapped_of_items (rules : Fields Rule) (container : Rule)
    (unfiltered : container.filter = none)
    (someRelative : ∃ field ∈ rules.toList, field.2.isRelative)
    (items : ∀ field ∈ rules.toList, field.2.isRelative →
      (field.2.matchesIn document).map some =
        (container.matchesIn document).map (field.2.firstBelow? document)) :
    wrapped dates document rules container = unwrapped dates document rules := by
  have unchanged : (rules.map fun _ rule => rule) = rules :=
    Fields.ext_toList (List.map_id' rules.toList)
  rw [wrapped_eq_unwrapped_map dates document unfiltered id someRelative (fun _ _ => rfl)]
  · exact congrArg (unwrapped dates document) unchanged
  · intro field member relative
    exact ⟨relative, Rule.map_format_of_items dates document relative (items field member relative)⟩

theorem wrapped_eq_unwrapped_datedHeadlines :
    wrapped Moment.read? frontPage datedHeadlines.entry paragraph =
      unwrapped Moment.read? frontPage datedHeadlines.entry := by
  apply wrapped_eq_unwrapped_of_items Moment.read? frontPage datedHeadlines.entry paragraph rfl
  · decide +kernel
  · decide +kernel

/-- Relative rules without a selector take the containers themselves, and on any page this is the same
as to look for the containers without containers, as long as no processor sees the difference. -/
theorem wrapped_eq_unwrapped_seeking (rules : Fields Rule) (container : Rule)
    (unfiltered : container.filter = none)
    (someRelative : ∃ field ∈ rules.toList, field.2.isRelative)
    (bare : ∀ field ∈ rules.toList, field.2.isRelative → field.2.pattern = none)
    (ignores : ∀ field ∈ rules.toList, field.2.isRelative → field.2.IgnoresPattern) :
    wrapped dates document rules container =
      unwrapped dates document (rules.map fun _ rule => rule.seeking container.pattern) := by
  apply wrapped_eq_unwrapped_map dates document unfiltered (·.seeking container.pattern) someRelative
  · intro rule notRelative
    simp [Rule.seeking, notRelative]
  · intro field member relative
    rw [Rule.seeking_of_relative relative]
    refine ⟨relative, List.map_congr_left fun element _ => ?_⟩
    rw [Rule.format_of_ignoresPattern dates document (ignores field member relative),
      Rule.textIn_of_bare dates document relative (bare field member relative)]

/-- The paragraphs themselves, each with a mark that the processor takes from the rule. -/
def quotation : Rule :=
  { content := .outerMarkup, trail := some "~",
    processor := some fun settings text => settings.trail.getD "" ++ text }

def datedQuotations : Fields Rule := .ofList [("body", quotation), ("date", stamp)]

theorem wrapped_eq_unwrapped_datedQuotations :
    wrapped Moment.read? frontPage datedQuotations paragraph =
      unwrapped Moment.read? frontPage
        (datedQuotations.map fun _ rule => rule.seeking paragraph.pattern) := by
  have listed : datedQuotations.toList = [("body", quotation), ("date", stamp)] := rfl
  have only : ∀ field ∈ datedQuotations.toList, field.2.isRelative → field.2 = quotation := by
    intro field member relative
    rw [listed, List.mem_cons, List.mem_singleton] at member
    rcases member with rfl | rfl
    · rfl
    · exact absurd relative (by decide)
  apply wrapped_eq_unwrapped_seeking Moment.read? frontPage datedQuotations paragraph rfl
  · exact ⟨("body", quotation), listed ▸ List.mem_cons_self, rfl⟩
  · intro field member relative
    rw [only field member relative]
    rfl
  · intro field member relative processor held settings pattern text
    rw [only field member relative] at held
    cases held
    rfl

end Extraction

end PageFeed
