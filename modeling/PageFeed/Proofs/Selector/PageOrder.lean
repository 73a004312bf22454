import Mathlib.Data.List.Sort
import PageFeed.Extraction.Extractor
import PageFeed.Proofs.Html.Construction.Run
import PageFeed.Proofs.Html.Preorder

/-! The order in which a rule finds elements. They are found in the order of their creation, among all
nodes that have a parent. The order of the page is another one: elements that are moved in front of a
table, or out of formatting elements that overlap, were created after those that then follow them, and
a body that frames replace keeps its content although it is no part of the page any more. The two
orders agree exactly where neither concerns an element that matches. -/

namespace PageFeed

open Html (Document NodeId)

namespace Rule

/-- Whether a rule matches a node of a page. -/
def holdsAt (rule : Rule) (document : Document) (id : NodeId) : Bool :=
  rule.pattern.any fun pattern => pattern.selector.holds ⟨document, none, none⟩ id

/-- The elements of the tree of a page that a rule matches, in the order of the page. -/
def matchesInTree (rule : Rule) (document : Document) : List NodeId :=
  (document.tree Document.rootId).ids.filter (rule.holdsAt document)

theorem matchesIn_eq_filter (rule : Rule) (document : Document) :
    rule.matchesIn document =
      (List.range document.nodes.size).filter fun id =>
        (document.parent? id).isSome && rule.holdsAt document id := by
  unfold matchesIn holdsAt
  cases rule.pattern with
  | none => simp
  | some pattern => rfl

theorem pairwise_matchesIn (rule : Rule) (document : Document) :
    (rule.matchesIn document).Pairwise (· < ·) := by
  rw [matchesIn_eq_filter]
  exact List.pairwise_lt_range.filter _

theorem isElement_of_holdsAt {rule : Rule} {document : Document} {id : NodeId}
    (holds : rule.holdsAt document id) : document.isElement id := by
  unfold holdsAt at holds
  cases pattern : rule.pattern with
  | none => simp [pattern] at holds
  | some pattern' =>
    rw [pattern, Option.any_some, Selector.holds, Bool.and_eq_true] at holds
    exact holds.1

theorem mem_matchesIn_iff (rule : Rule) (document : Document) (id : NodeId) :
    id ∈ rule.matchesIn document ↔
      (document.parent? id).isSome ∧ rule.holdsAt document id := by
  rw [matchesIn_eq_filter, List.mem_filter, List.mem_range, Bool.and_eq_true]
  constructor
  · exact fun found => found.2
  · intro found
    obtain ⟨parent, placed⟩ := Option.isSome_iff_exists.mp found.1
    exact ⟨Document.lt_size_of_parent? placed, found⟩

section

variable {document : Document} (linked : document.Linked) (rule : Rule)
include linked

theorem mem_matchesInTree_iff (id : NodeId) :
    id ∈ rule.matchesInTree document ↔ document.InTree id ∧ rule.holdsAt document id := by
  rw [matchesInTree, List.mem_filter, linked.mem_ids_tree_iff]

theorem nodup_matchesInTree : (rule.matchesInTree document).Nodup :=
  linked.nodup_ids_tree.filter _

/-- Whatever matches in the tree is found, since the root, the only node of the tree without parent,
is no element. -/
theorem matchesInTree_subset : rule.matchesInTree document ⊆ rule.matchesIn document := by
  intro id member
  obtain ⟨inTree, holds⟩ := (mem_matchesInTree_iff linked rule id).mp member
  have inner : id ≠ Document.rootId := by
    intro same
    have element := isElement_of_holdsAt holds
    rw [same, Document.isElement, linked.root] at element
    contradiction
  exact (mem_matchesIn_iff rule document id).mpr
    ⟨linked.parent?_isSome_of_inTree inner inTree, holds⟩

theorem mem_matchesInTree_of_inTree {id : NodeId} (found : id ∈ rule.matchesIn document)
    (inTree : document.InTree id) : id ∈ rule.matchesInTree document :=
  (mem_matchesInTree_iff linked rule id).mpr
    ⟨inTree, ((mem_matchesIn_iff rule document id).mp found).2⟩

/-- The order of creation is the order of the page for what a rule matches when the tree has it in
the order of creation and nothing else is found. -/
theorem matchesIn_eq_matchesInTree_iff :
    rule.matchesIn document = rule.matchesInTree document ↔
      (rule.matchesInTree document).Pairwise (· < ·) ∧
        ∀ id ∈ rule.matchesIn document, document.InTree id := by
  have created := rule.pairwise_matchesIn document
  constructor
  · intro same
    refine ⟨same ▸ created, ?_⟩
    intro id member
    rw [same] at member
    exact ((mem_matchesInTree_iff linked rule id).mp member).1
  · rintro ⟨ordered, inTree⟩
    refine created.eq_of_mem_iff ordered ?_
    intro id
    constructor
    · exact fun found => mem_matchesInTree_of_inTree linked rule found (inTree id found)
    · exact fun member => matchesInTree_subset linked rule member

/-- The first element that is found is the first one of the page when nothing that is found was
created before that one. -/
theorem head?_matchesIn_eq_iff :
    (rule.matchesIn document).head? = (rule.matchesInTree document).head? ↔
      ∀ id ∈ rule.matchesIn document, ∃ first ∈ (rule.matchesInTree document).head?, first ≤ id := by
  have created := rule.pairwise_matchesIn document
  have subset := matchesInTree_subset linked rule
  cases found : rule.matchesIn document with
  | nil =>
    rw [found] at subset
    simp [List.eq_nil_of_subset_nil subset]
  | cons earliest later =>
    rw [found, List.pairwise_cons] at created
    rw [found] at subset
    constructor
    · intro same id member
      refine ⟨earliest, same ▸ rfl, ?_⟩
      rcases List.mem_cons.mp member with here | behind
      · exact Nat.le_of_eq here.symm
      · exact Nat.le_of_lt (created.1 id behind)
    · intro least
      obtain ⟨first, isFirst, before⟩ := least earliest List.mem_cons_self
      have known := subset (List.mem_of_head? isFirst)
      have same : first = earliest := by
        rcases List.mem_cons.mp known with here | behind
        · exact here
        · exact absurd (created.1 first behind) (Nat.not_lt.mpr before)
      rw [Option.mem_def.mp isFirst, same]
      rfl

/-- Of what is found, the part in the tree is what the rule matches in the tree. -/
theorem filter_matchesIn_perm :
    ((rule.matchesIn document).filter fun id => decide (id ∈ rule.matchesInTree document)).Perm
      (rule.matchesInTree document) := by
  have created : (rule.matchesIn document).Nodup :=
    (rule.pairwise_matchesIn document).imp fun less => Nat.ne_of_lt less
  rw [List.perm_ext_iff_of_nodup (created.filter _) (nodup_matchesInTree linked rule)]
  intro id
  rw [List.mem_filter, decide_eq_true_iff]
  constructor
  · exact fun found => found.2
  · exact fun member => ⟨matchesInTree_subset linked rule member, member⟩

end

end Rule

/-- What a rule finds in the page of a text, and in which order. The tree of the page holds every
matching element that chains of children lead to, once. All of these are found, in the order of their
creation; this list is the one in the order of the page exactly when the matching elements of the tree
stand in the order of their creation and no other element is found. The two lists begin with the same
element exactly when nothing that is found was created before the first match of the tree. -/
theorem matchesIn_parse (source : String) (rule : Rule) :
    let document := Html.parse source
    let found := rule.matchesIn document
    let inTree := rule.matchesInTree document
    (∀ id, id ∈ inTree ↔ document.InTree id ∧ rule.holdsAt document id) ∧
    inTree.Nodup ∧
    found.Pairwise (· < ·) ∧
    (found.filter fun id => decide (id ∈ inTree)).Perm inTree ∧
    (found = inTree ↔ inTree.Pairwise (· < ·) ∧ ∀ id ∈ found, document.InTree id) ∧
    (found.head? = inTree.head? ↔ ∀ id ∈ found, ∃ first ∈ inTree.head?, first ≤ id) := by
  have linked := Html.linked_parse source
  exact ⟨rule.mem_matchesInTree_iff linked, rule.nodup_matchesInTree linked,
    rule.pairwise_matchesIn _, rule.filter_matchesIn_perm linked,
    rule.matchesIn_eq_matchesInTree_iff linked, rule.head?_matchesIn_eq_iff linked⟩

/-- An element in a table that is moved in front of it, and a paragraph in a body that frames
replace. -/
theorem matchesIn_parse_not_pageOrder :
    ((Rule.ofSelector "table, i").toOption.map fun rule =>
      (rule.matchesIn (Html.parse "<table><i>"),
        rule.matchesInTree (Html.parse "<table><i>"))) = some ([4, 5], [5, 4]) ∧
    ((Rule.ofSelector "p").toOption.map fun rule =>
      (rule.matchesIn (Html.parse "<p></p><frameset>"),
        rule.matchesInTree (Html.parse "<p></p><frameset>"))) = some ([4], []) := by
  decide +kernel

end PageFeed
