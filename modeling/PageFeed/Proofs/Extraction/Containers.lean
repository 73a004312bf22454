import PageFeed.Html.Page
import PageFeed.Proofs.Extraction.Alignment
import PageFeed.Proofs.Html.Construction.Run
import PageFeed.Proofs.Html.Preorder

/-! Entries of containers. The values of absolute rules are looked up once, ahead of the containers.
This changes nothing: whoever asks the store for a value is a rule that has one there, and so every
entry holds what its rules find in the page and in the container when they are asked one by one. What
they find in a container lies below it: in the trees of its children, one after the other. -/

namespace PageFeed

open Html (Document NodeId Tree)

theorem Html.Document.below_eq (document : Document) (id : NodeId) :
    document.below id = (document.tree id).children.flatMap Tree.ids := by
  unfold below
  cases document.tree id with
  | node id data children => exact Tree.idsOfAll_eq_flatMap children

/-- The value that a rule has in the entry of a container, looked up in the page and in the
container at that moment. -/
def Rule.textIn (rule : Rule) (dates : Moment.Reader) (document : Document) (container : NodeId) :
    String :=
  match rule.literal, rule.isAbsolute, rule.pattern with
  | some literal, _, _ => literal
  | none, true, _ => rule.textOfFirst dates document (rule.matchesIn document)
  | none, false, some pattern =>
    rule.textOfFirst dates document (((document.tree container).children.flatMap Tree.ids).filter
      (pattern.selector.holds ⟨document, some container, none⟩))
  | none, false, none => rule.format dates document container

namespace Extraction

/-- The store holds the values of the absolute rules without literal, and no others. -/
theorem get?_absolutes (dates : Moment.Reader) (document : Document) (rules : Fields Rule)
    (name : String) :
    (absolutes dates document rules).get? name =
      ((rules.get? name).filter fun rule => rule.literal.isNone && rule.isAbsolute).map
        fun rule => rule.textOfFirst dates document (rule.matchesIn document) := by
  simp only [absolutes, Fields.get?_map, Fields.get?_filter, Rule.firstText_eq_textOfFirst]

theorem valueIn_absolutes (dates : Moment.Reader) (document : Document) (rules : Fields Rule)
    (container : NodeId) (name : String) (rule : Rule) (found : rules.get? name = some rule) :
    valueIn dates document (absolutes dates document rules) container name rule =
      rule.textIn dates document container := by
  unfold valueIn Rule.textIn
  cases hasLiteral : rule.literal with
  | some literal => rfl
  | none =>
    cases isAbsolute : rule.isAbsolute with
    | true =>
      simp [get?_absolutes, found, Option.filter_some, hasLiteral, isAbsolute]
    | false =>
      cases rule.pattern with
      | some pattern =>
        simp only [Selector.selectBelow, document.below_eq, Rule.formatOptional_head?,
          Bool.false_eq_true, if_false]
      | none => rfl

theorem entryOf_absolutes (dates : Moment.Reader) (document : Document) (rules : Fields Rule)
    (container : NodeId) :
    entryOf dates document rules (absolutes dates document rules) container =
      rules.map fun _ rule => rule.textIn dates document container := by
  apply Fields.ext_get?
  intro name
  rw [entryOf, Fields.get?_map, Fields.get?_map]
  cases found : rules.get? name with
  | none => rfl
  | some rule =>
    exact congrArg some (valueIn_absolutes dates document rules container name rule found)

theorem names_entryOf (dates : Moment.Reader) (document : Document) (rules : Fields Rule)
    (store : Fields String) (container : NodeId) :
    (entryOf dates document rules store container).names = rules.names :=
  Fields.names_map _ rules

/-- The entries of containers are those that the rules make up one by one, container by container,
without those that the filter refuses. The store has a value for every rule that asks for one, every
entry that the filter sees has all names, and no entry is made up beyond those of the containers. In
the page of a text, the trees of its children hold what lies below a container and nothing else. -/
theorem wrapped_eq_filter_textIn (dates : Moment.Reader) (document : Document)
    (rules : Fields Rule) (container : Rule) :
    wrapped dates document rules container =
        ((container.matchesIn document).map fun element =>
          rules.map fun _ rule => rule.textIn dates document element).filter
            (fun entry => container.filter.all fun keep => keep entry) ∧
      (∀ name, (absolutes dates document rules).get? name =
        ((rules.get? name).filter fun rule => rule.literal.isNone && rule.isAbsolute).map
          fun rule => rule.textOfFirst dates document (rule.matchesIn document)) ∧
      (∀ element, (entryOf dates document rules (absolutes dates document rules) element).names =
        rules.names) ∧
      (wrapped dates document rules container).length ≤ (container.matchesIn document).length ∧
      ∀ source element id, id ∈ ((Html.parse source).tree element).children.flatMap Tree.ids ↔
        Relation.TransGen (Html.parse source).IsChildOf element id := by
  have resolved : (container.matchesIn document).map
      (entryOf dates document rules (absolutes dates document rules)) =
      (container.matchesIn document).map fun element =>
        rules.map fun _ rule => rule.textIn dates document element :=
    List.map_congr_left fun element _ => entryOf_absolutes dates document rules element
  have entries : wrapped dates document rules container =
      ((container.matchesIn document).map fun element =>
        rules.map fun _ rule => rule.textIn dates document element).filter
          (fun entry => container.filter.all fun keep => keep entry) := by
    rw [wrapped, resolved]
    cases container.filter with
    | some keep => rfl
    | none => simp
  refine ⟨entries, get?_absolutes dates document rules,
    names_entryOf dates document rules _, ?_,
    fun source => (Html.linked_parse source).mem_flatMap_ids_children_iff⟩
  rw [entries]
  apply (List.length_filter_le _ _).trans
  rw [List.length_map]

end Extraction

end PageFeed
