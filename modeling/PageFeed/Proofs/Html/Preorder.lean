import Mathlib.Data.Finset.Card
import Mathlib.Logic.Relation
import PageFeed.Html.Tree
import PageFeed.Proofs.Html.Linked

/-! The nodes of a page in the order of the page. A page whose parents and children agree is read from
its root without loss: every node that a chain of children leads to is met, and it is met once. -/

namespace PageFeed.Html

theorem Tree.idsOfAll_eq_flatMap (trees : List Tree) : Tree.idsOfAll trees = trees.flatMap Tree.ids := by
  induction trees with
  | nil => rfl
  | cons tree rest step => rw [Tree.idsOfAll, step, List.flatMap_cons]

namespace Document

theorem ids_treeTo_succ (document : Document) (depth : Nat) (top : NodeId) :
    (document.treeTo (depth + 1) top).ids =
      top :: (document.children top).flatMap fun child => (document.treeTo depth child).ids := by
  rw [treeTo, Tree.ids, Tree.idsOfAll_eq_flatMap, List.flatMap_map]

/-! ## The nodes above a node -/

/-- The node that lies a number of steps above a node. -/
def above (document : Document) : Nat → NodeId → Option NodeId
  | 0, id => some id
  | steps + 1, id => (document.parent? id).bind (document.above steps)

theorem above_add (document : Document) (first second : Nat) (id : NodeId) :
    document.above (first + second) id = (document.above first id).bind (document.above second) := by
  induction first generalizing id with
  | zero => simp [above]
  | succ first step =>
    rw [Nat.succ_add, above, above, Option.bind_assoc]
    congr 1
    funext parent
    exact step parent

theorem above_one (document : Document) (id : NodeId) : document.above 1 id = document.parent? id := by
  cases placed : document.parent? id <;> simp [above, placed]

/-- A node that lies above another one does so at a distance below the number of nodes: a way that
meets a node twice can be cut short. -/
theorem exists_above_lt_size {document : Document} {steps : Nat} {id top : NodeId}
    (known : top < document.nodes.size) (reached : document.above steps id = some top) :
    ∃ fewer < document.nodes.size, document.above fewer id = some top := by
  induction steps using Nat.strong_induction_on with
  | _ steps shorter =>
    by_cases short : steps < document.nodes.size
    · exact ⟨steps, short, reached⟩
    have met : ∀ count ≤ steps, ∃ place < document.nodes.size,
        document.above count id = some place ∧ document.above (steps - count) place = some top := by
      intro count within
      have whole := document.above_add count (steps - count) id
      rw [Nat.add_sub_cancel' within, reached] at whole
      obtain ⟨place, here, rest⟩ := Option.bind_eq_some_iff.mp whole.symm
      refine ⟨place, ?_, here, rest⟩
      cases left : steps - count with
      | zero =>
        rw [left] at rest
        exact Option.some.inj rest ▸ known
      | succ more =>
        rw [left, above, Option.bind_eq_some_iff] at rest
        obtain ⟨parent, placed, _⟩ := rest
        exact lt_size_of_parent? placed
    have cut {near far : Nat} (before : near < far) (within : far ≤ steps)
        (same : (document.above near id).getD 0 = (document.above far id).getD 0) :
        ∃ fewer < document.nodes.size, document.above fewer id = some top := by
      obtain ⟨place, _, here, _⟩ := met near (by omega)
      obtain ⟨other, _, there, rest⟩ := met far within
      obtain rfl : place = other := by simpa [here, there] using same
      refine shorter (near + (steps - far)) (by omega) ?_
      rw [document.above_add, here]
      exact rest
    obtain ⟨first, firstMember, second, secondMember, different, same⟩ :=
      Finset.exists_ne_map_eq_of_card_lt_of_maps_to (s := Finset.range (steps + 1))
        (t := Finset.range document.nodes.size) (f := fun count => (document.above count id).getD 0)
        (by simp only [Finset.card_range]; omega) (by
          intro count member
          obtain ⟨place, inside, here, _⟩ := met count (by simpa [Nat.lt_succ_iff] using member)
          simpa [here] using inside)
    rw [Finset.mem_range, Nat.lt_succ_iff] at firstMember secondMember
    rcases Nat.lt_or_gt_of_ne different with before | after
    · exact cut before secondMember same
    · exact cut after firstMember same.symm

namespace Linked

variable {document : Document}

/-- The last step upwards leads from a child to its parent. -/
theorem above_succ_iff (linked : document.Linked) (steps : Nat) (id top : NodeId) :
    document.above (steps + 1) id = some top ↔
      ∃ child ∈ document.children top, document.above steps id = some child := by
  rw [document.above_add, Option.bind_eq_some_iff]
  constructor
  · rintro ⟨child, reached, last⟩
    rw [above_one] at last
    exact ⟨child, (linked.child_iff top child).mpr last, reached⟩
  · rintro ⟨child, member, reached⟩
    refine ⟨child, reached, ?_⟩
    rw [above_one]
    exact (linked.child_iff top child).mp member

theorem above_root (linked : document.Linked) (steps : Nat) :
    document.above (steps + 1) rootId = none := by
  rw [above, linked.top]
  rfl

/-- The root lies above a node at one distance only. -/
theorem above_unique (linked : document.Linked) {steps others : Nat} {id : NodeId}
    (reached : document.above steps id = some rootId)
    (again : document.above others id = some rootId) : steps = others := by
  by_contra different
  rcases Nat.lt_or_gt_of_ne different with less | less
  all_goals
    obtain ⟨extra, longer⟩ := Nat.exists_eq_add_of_lt less
    subst longer
    have beyond := linked.above_root extra
    simp_all [Nat.add_assoc, document.above_add]

/-- The root lies above a node at a distance below the number of nodes. -/
theorem steps_lt_size (linked : document.Linked) {steps : Nat} {id : NodeId}
    (reached : document.above steps id = some rootId) : steps < document.nodes.size := by
  obtain ⟨fewer, short, again⟩ := exists_above_lt_size linked.size_pos reached
  exact linked.above_unique again reached ▸ short

/-! ## The nodes of the tree -/

theorem mem_ids_treeTo (linked : document.Linked) (depth : Nat) (top id : NodeId) :
    id ∈ (document.treeTo depth top).ids ↔
      ∃ steps ≤ depth, document.above steps id = some top := by
  induction depth generalizing top with
  | zero => simp [treeTo, Tree.ids, Tree.idsOfAll, above]
  | succ depth step =>
    rw [ids_treeTo_succ, List.mem_cons, List.mem_flatMap]
    constructor
    · rintro (same | ⟨child, member, found⟩)
      · exact ⟨0, Nat.zero_le _, congrArg some same⟩
      · obtain ⟨steps, within, reached⟩ := (step child).mp found
        exact ⟨steps + 1, Nat.succ_le_succ within,
          (linked.above_succ_iff steps id top).mpr ⟨child, member, reached⟩⟩
    · rintro ⟨steps, within, reached⟩
      cases steps with
      | zero => exact Or.inl (Option.some.inj reached)
      | succ steps =>
        obtain ⟨child, member, below⟩ := (linked.above_succ_iff steps id top).mp reached
        exact Or.inr ⟨child, member, (step child).mpr ⟨steps, Nat.le_of_succ_le_succ within, below⟩⟩

/-- No node stands twice in the tree below a node that does not lie above itself. -/
theorem nodup_ids_treeTo (linked : document.Linked) (depth : Nat) (top : NodeId)
    (acyclic : ∀ steps, document.above (steps + 1) top ≠ some top) :
    (document.treeTo depth top).ids.Nodup := by
  induction depth generalizing top with
  | zero => simp [treeTo, Tree.ids, Tree.idsOfAll]
  | succ depth step =>
    -- What lies above a child lies above the top as well, one step less away.
    have later : ∀ child ∈ document.children top, ∀ (steps : Nat) (other : NodeId),
        document.above (steps + 1) child = some other → document.above steps top = some other := by
      intro child member steps other reached
      rw [above, (linked.child_iff top child).mp member] at reached
      exact reached
    have apart : ∀ first ∈ document.children top, ∀ second ∈ document.children top,
        ∀ steps, document.above (steps + 1) first ≠ some second := by
      intro first firstMember second secondMember steps reached
      have back := later first firstMember steps second reached
      exact acyclic steps ((linked.above_succ_iff steps top top).mpr ⟨second, secondMember, back⟩)
    rw [ids_treeTo_succ, List.nodup_cons, List.nodup_flatMap]
    refine ⟨?_, ?_, ?_⟩
    · intro found
      obtain ⟨child, member, below⟩ := List.mem_flatMap.mp found
      obtain ⟨steps, _, reached⟩ := (linked.mem_ids_treeTo depth child top).mp below
      exact acyclic steps ((linked.above_succ_iff steps top top).mpr ⟨child, member, reached⟩)
    · intro child member
      exact step child (apart child member child member)
    · refine (linked.nodup top).imp_of_mem ?_
      intro first second firstMember secondMember different
      refine List.disjoint_left.mpr ?_
      intro id inFirst inSecond
      obtain ⟨steps, _, reached⟩ := (linked.mem_ids_treeTo depth first id).mp inFirst
      obtain ⟨others, _, again⟩ := (linked.mem_ids_treeTo depth second id).mp inSecond
      rcases Nat.lt_trichotomy steps others with less | same | less
      · obtain ⟨extra, longer⟩ := Nat.exists_eq_add_of_lt less
        rw [longer, Nat.add_assoc, document.above_add, reached] at again
        exact apart first firstMember second secondMember extra again
      · rw [same, again] at reached
        exact different (Option.some.inj reached).symm
      · obtain ⟨extra, longer⟩ := Nat.exists_eq_add_of_lt less
        rw [longer, Nat.add_assoc, document.above_add, again] at reached
        exact apart second secondMember first firstMember extra reached

end Linked

/-! ## The tree from the root -/

def IsChildOf (document : Document) (parent child : NodeId) : Prop := child ∈ document.children parent

/-- Whether a chain of children leads from the root to a node. -/
def InTree (document : Document) : NodeId → Prop :=
  Relation.ReflTransGen document.IsChildOf rootId

namespace Linked

variable {document : Document}

/-- A chain of children leads downwards where one of parents leads upwards. -/
theorem reflTransGen_iff_above (linked : document.Linked) (top id : NodeId) :
    Relation.ReflTransGen document.IsChildOf top id ↔ ∃ steps, document.above steps id = some top := by
  constructor
  · intro reached
    induction reached with
    | refl => exact ⟨0, rfl⟩
    | tail _ member ih =>
      obtain ⟨steps, below⟩ := ih
      refine ⟨steps + 1, ?_⟩
      rw [above, (linked.child_iff _ _).mp member]
      exact below
  · rintro ⟨steps, reached⟩
    induction steps generalizing id with
    | zero =>
      have same : id = top := Option.some.inj reached
      rw [same]
    | succ steps ih =>
      rw [above, Option.bind_eq_some_iff] at reached
      obtain ⟨parent, placed, rest⟩ := reached
      exact (ih parent rest).tail ((linked.child_iff parent id).mpr placed)

theorem inTree_iff_above (linked : document.Linked) (id : NodeId) :
    document.InTree id ↔ ∃ steps, document.above steps id = some rootId :=
  linked.reflTransGen_iff_above rootId id

/-- The trees below a node hold what chains of children lead to from there. None lies too deep. -/
theorem mem_flatMap_ids_children_iff (linked : document.Linked) (top id : NodeId) :
    id ∈ (document.tree top).children.flatMap Tree.ids ↔
      Relation.TransGen document.IsChildOf top id := by
  obtain ⟨depth, size⟩ := Nat.exists_eq_add_one_of_ne_zero (Nat.ne_zero_of_lt linked.size_pos)
  have children : (document.tree top).children =
      (document.children top).map (document.treeTo depth) := by
    rw [tree, size, treeTo, Tree.children]
  rw [children, List.flatMap_map, List.mem_flatMap, Relation.TransGen.head'_iff]
  refine exists_congr fun child => and_congr_right fun member => ?_
  rw [linked.mem_ids_treeTo, linked.reflTransGen_iff_above]
  constructor
  · rintro ⟨steps, _, reached⟩
    exact ⟨steps, reached⟩
  · rintro ⟨steps, reached⟩
    obtain ⟨fewer, short, again⟩ := exists_above_lt_size (linked.isInner_of_mem member).2 reached
    exact ⟨fewer, by omega, again⟩

/-- The tree of a page holds the nodes that chains of children lead to. None lies too deep. -/
theorem mem_ids_tree_iff (linked : document.Linked) (id : NodeId) :
    id ∈ (document.tree rootId).ids ↔ document.InTree id := by
  rw [tree, linked.mem_ids_treeTo, linked.inTree_iff_above]
  constructor
  · rintro ⟨steps, _, reached⟩
    exact ⟨steps, reached⟩
  · rintro ⟨steps, reached⟩
    exact ⟨steps, Nat.le_of_lt (linked.steps_lt_size reached), reached⟩

theorem nodup_ids_tree (linked : document.Linked) : (document.tree rootId).ids.Nodup := by
  refine linked.nodup_ids_treeTo _ rootId ?_
  intro steps
  simp [linked.above_root]

/-- A node of the tree that is not the root is a child. -/
theorem parent?_isSome_of_inTree (linked : document.Linked) {id : NodeId} (inner : id ≠ rootId)
    (inTree : document.InTree id) : (document.parent? id).isSome := by
  rcases Relation.ReflTransGen.cases_tail inTree with same | ⟨parent, _, member⟩
  · exact absurd same inner
  · simp [(linked.child_iff parent id).mp member]

end Linked

end Document

end PageFeed.Html
