import Mathlib.Data.List.Nodup
import Mathlib.Data.List.Perm.Basic
import PageFeed.Html.Document

/-! A page keeps every place twice: a node knows its parent, and the parent lists its children. Each
change to a page writes both sides. This module shows that the two sides never disagree, whatever is
moved where; it does not matter for that whether a node is moved into its own content. -/

namespace PageFeed.Html.Document

/-! ## The two sides after a change to one node -/

theorem node?_modify (document : Document) (id other : NodeId) (change : Node → Node) :
    (document.modify id change).node? other =
      if other = id then (document.node? other).map change else document.node? other := by
  simp only [node?, modify, Array.getElem?_modify, eq_comm]

theorem node?_eq_none_iff (document : Document) (id : NodeId) :
    document.node? id = none ↔ ¬id < document.nodes.size := by
  simp [node?]

@[simp] theorem size_modify (document : Document) (id : NodeId) (change : Node → Node) :
    (document.modify id change).nodes.size = document.nodes.size := by
  simp [modify]

theorem exists_node (document : Document) (id : NodeId) (known : id < document.nodes.size) :
    ∃ node, document.node? id = some node := by
  cases found : document.node? id with
  | none => exact absurd known ((document.node?_eq_none_iff id).mp found)
  | some node => exact ⟨node, rfl⟩

/-- A change that leaves some property of every node as it is does so for the page. -/
theorem map_node?_modify {α : Type} (document : Document) (id other : NodeId)
    (change : Node → Node) (property : Node → α)
    (same : ∀ node, property (change node) = property node) :
    ((document.modify id change).node? other).map property =
      (document.node? other).map property := by
  rw [node?_modify]
  split
  · cases document.node? other <;> simp [same]
  · rfl

theorem data_modify (document : Document) (id other : NodeId) (change : Node → Node)
    (same : ∀ node, (change node).data = node.data) :
    (document.modify id change).data other = document.data other := by
  have kept := document.map_node?_modify id other change Node.data same
  unfold data
  cases before : document.node? other <;> cases after : (document.modify id change).node? other <;>
    simp_all

theorem parent?_modify (document : Document) (id other : NodeId) (change : Node → Node)
    (same : ∀ node, (change node).parent = node.parent) :
    (document.modify id change).parent? other = document.parent? other := by
  have kept := document.map_node?_modify id other change Node.parent same
  unfold parent?
  cases before : document.node? other <;> cases after : (document.modify id change).node? other <;>
    simp_all

theorem children_modify (document : Document) (id other : NodeId) (change : Node → Node)
    (same : ∀ node, (change node).children = node.children) :
    (document.modify id change).children other = document.children other := by
  have kept := document.map_node?_modify id other change Node.children same
  unfold children
  cases before : document.node? other <;> cases after : (document.modify id change).node? other <;>
    simp_all

@[simp] theorem data_setParent (document : Document) (id other : NodeId) (parent : Option NodeId) :
    (document.modify id fun node => { node with parent }).data other = document.data other :=
  document.data_modify id other _ fun _ => rfl

@[simp] theorem data_setChildren (document : Document) (id other : NodeId)
    (edit : Node → Array NodeId) :
    (document.modify id fun node => { node with children := edit node }).data other =
      document.data other :=
  document.data_modify id other _ fun _ => rfl

@[simp] theorem children_setParent (document : Document) (id other : NodeId)
    (parent : Option NodeId) :
    (document.modify id fun node => { node with parent }).children other =
      document.children other :=
  document.children_modify id other _ fun _ => rfl

@[simp] theorem parent?_setChildren (document : Document) (id other : NodeId)
    (edit : Node → Array NodeId) :
    (document.modify id fun node => { node with children := edit node }).parent? other =
      document.parent? other :=
  document.parent?_modify id other _ fun _ => rfl

theorem parent?_setParent (document : Document) (id other : NodeId) (parent : Option NodeId)
    (known : id < document.nodes.size) :
    (document.modify id fun node => { node with parent }).parent? other =
      if other = id then parent else document.parent? other := by
  unfold parent?
  rw [node?_modify]
  by_cases same : other = id
  · obtain ⟨node, found⟩ := document.exists_node id known
    simp [same, found]
  · simp [same]

theorem children_setChildren (document : Document) (id other : NodeId)
    (edit : Node → Array NodeId) (edited : List NodeId → List NodeId)
    (known : id < document.nodes.size)
    (effect : ∀ node, (edit node).toList = edited node.children.toList) :
    (document.modify id fun node => { node with children := edit node }).children other =
      if other = id then edited (document.children other) else document.children other := by
  unfold children
  rw [node?_modify]
  by_cases same : other = id
  · obtain ⟨node, found⟩ := document.exists_node id known
    simp [same, found, effect]
  · simp [same]

/-! ## The two sides agree -/

/-- Parents and children agree: a node is a child of its parent, once, and of no other node. The
root has no parent. -/
structure Linked (document : Document) : Prop where
  root : document.data rootId = .root
  top : document.parent? rootId = none
  child_iff : ∀ parent id, id ∈ document.children parent ↔ document.parent? id = some parent
  nodup : ∀ parent, (document.children parent).Nodup

/-- Whether a number is that of a node other than the root. -/
def IsInner (document : Document) (id : NodeId) : Prop :=
  id ≠ rootId ∧ id < document.nodes.size

theorem IsInner.mono {document later : Document} {id : NodeId} (inner : document.IsInner id)
    (grown : document.nodes.size ≤ later.nodes.size) : later.IsInner id :=
  ⟨inner.1, Nat.lt_of_lt_of_le inner.2 grown⟩

theorem linked_blank : blank.Linked where
  root := rfl
  top := rfl
  child_iff := by
    intro parent id
    cases parent <;> cases id <;> simp [blank, children, parent?, node?]
  nodup := by
    intro parent
    cases parent <;> simp [blank, children, node?]

theorem lt_size_of_parent? {document : Document} {id parent : NodeId}
    (placed : document.parent? id = some parent) : id < document.nodes.size := by
  by_contra beyond
  have missing := (document.node?_eq_none_iff id).mpr beyond
  simp [parent?, missing] at placed

theorem lt_size_of_mem_children {document : Document} {id parent : NodeId}
    (member : id ∈ document.children parent) : parent < document.nodes.size := by
  by_contra beyond
  have missing := (document.node?_eq_none_iff parent).mpr beyond
  simp [children, missing] at member

namespace Linked

variable {document : Document}

theorem size_pos (linked : document.Linked) : 0 < document.nodes.size := by
  by_contra empty
  have missing := (document.node?_eq_none_iff rootId).mpr empty
  have root := linked.root
  simp [data, missing] at root

/-- A child is a node other than the root. -/
theorem isInner_of_mem (linked : document.Linked) {id parent : NodeId}
    (member : id ∈ document.children parent) : document.IsInner id := by
  have placed := (linked.child_iff parent id).mp member
  refine ⟨?_, lt_size_of_parent? placed⟩
  intro same
  rw [same, linked.top] at placed
  contradiction

theorem templateContent_lt (linked : document.Linked) {id : NodeId}
    (known : id < document.nodes.size) :
    document.templateContent id < document.nodes.size := by
  unfold templateContent
  cases content : document.children id with
  | nil => exact known
  | cons child rest =>
    have member : child ∈ document.children id := by simp [content]
    exact (linked.isInner_of_mem member).2

/-- A node is put under another by one more entry among the children of that one, wherever in the
list it stands, and nothing else. -/
theorem attach {later : Document} (linked : document.Linked) (id parent : NodeId)
    (inner : id ≠ rootId) (free : document.parent? id = none)
    (root : later.data rootId = document.data rootId)
    (parents : ∀ other, later.parent? other =
      if other = id then some parent else document.parent? other)
    (others : ∀ other, other ≠ parent → later.children other = document.children other)
    (members : (later.children parent).Perm (id :: document.children parent)) :
    later.Linked where
  root := root.trans linked.root
  top := by
    rw [parents, if_neg inner.symm]
    exact linked.top
  child_iff := by
    intro place other
    have before := linked.child_iff place other
    rw [parents]
    by_cases same : place = parent
    · subst same
      rw [members.mem_iff, List.mem_cons, before]
      by_cases new : other = id <;> simp [new]
    · rw [others place same, before]
      by_cases new : other = id
      · simp [new, free, Ne.symm same]
      · simp [new]
  nodup := by
    intro place
    by_cases same : place = parent
    · subst same
      rw [members.nodup_iff, List.nodup_cons, linked.child_iff]
      exact ⟨by simp [free], linked.nodup place⟩
    · rw [others place same]
      exact linked.nodup place

end Linked

/-! ## Taking a node out -/

@[simp] theorem size_detach (document : Document) (id : NodeId) :
    (document.detach id).nodes.size = document.nodes.size := by
  unfold detach
  split <;> simp

@[simp] theorem data_detach (document : Document) (id other : NodeId) :
    (document.detach id).data other = document.data other := by
  unfold detach
  split <;> simp

theorem parent?_detach (document : Document) (id other : NodeId) :
    (document.detach id).parent? other =
      if other = id then none else document.parent? other := by
  unfold detach
  split
  next free =>
    by_cases same : other = id <;> simp [same, free]
  next parent placed =>
    have known := lt_size_of_parent? placed
    rw [parent?_setParent _ _ _ _ (by simpa using known), parent?_setChildren]

theorem toList_erase (members : Array NodeId) (id : NodeId) :
    (members.erase id).toList = members.toList.erase id := by
  cases members
  simp

theorem Linked.children_detach {document : Document} (linked : document.Linked)
    (id other : NodeId) :
    (document.detach id).children other = (document.children other).erase id := by
  unfold Document.detach
  split
  next free =>
    have absent : id ∉ document.children other := by simp [linked.child_iff, free]
    rw [List.erase_of_not_mem absent]
  next parent placed =>
    have member := (linked.child_iff parent id).mpr placed
    have known := lt_size_of_mem_children member
    rw [children_setParent, children_setChildren _ _ _ (fun node => node.children.erase id)
      (·.erase id) known (fun node => toList_erase node.children id)]
    split
    · rfl
    next different =>
      have absent : id ∉ document.children other := by
        simp [linked.child_iff, placed, Ne.symm different]
      rw [List.erase_of_not_mem absent]

theorem Linked.detach {document : Document} (linked : document.Linked) (id : NodeId) :
    (document.detach id).Linked where
  root := by rw [data_detach, linked.root]
  top := by
    rw [parent?_detach, linked.top]
    exact ite_self none
  child_iff := by
    intro parent other
    rw [linked.children_detach, (linked.nodup parent).mem_erase_iff, linked.child_iff,
      parent?_detach]
    by_cases same : other = id <;> simp [same]
  nodup := by
    intro parent
    rw [linked.children_detach]
    exact (linked.nodup parent).erase id

/-! ## Putting a node somewhere -/

@[simp] theorem size_append (document : Document) (parent id : NodeId) :
    (document.append parent id).nodes.size = document.nodes.size := by
  simp [append]

/-- Both ways of putting a node somewhere take it out of its place first, and then add it somewhere
among the children of a node. -/
theorem Linked.place {document : Document} (linked : document.Linked) {parent id : NodeId}
    (inner : document.IsInner id) (known : parent < document.nodes.size)
    (edit : Node → Array NodeId) (edited : List NodeId → List NodeId)
    (effect : ∀ node, (edit node).toList = edited node.children.toList)
    (members : (edited ((document.detach id).children parent)).Perm
      (id :: (document.detach id).children parent)) :
    (((document.detach id).modify parent fun node => { node with children := edit node }).modify id
      fun node => { node with parent := some parent }).Linked := by
  have taken := linked.detach id
  have free : (document.detach id).parent? id = none := by simp [parent?_detach]
  have listed : ∀ other, ((document.detach id).modify parent fun node =>
      { node with children := edit node }).children other =
        if other = parent then edited ((document.detach id).children other)
        else (document.detach id).children other := by
    intro other
    exact children_setChildren _ _ _ _ edited (by simpa using known) effect
  refine taken.attach id parent inner.1 free ?_ ?_ ?_ ?_
  · simp
  · intro other
    rw [parent?_setParent _ _ _ _ (by simpa using inner.2), parent?_setChildren]
  · intro other different
    rw [children_setParent, listed, if_neg different]
  · rw [children_setParent, listed, if_pos rfl]
    exact members

theorem Linked.append {document : Document} (linked : document.Linked) {parent id : NodeId}
    (inner : document.IsInner id) (known : parent < document.nodes.size) :
    (document.append parent id).Linked :=
  linked.place inner known (fun node => node.children.push id) (· ++ [id])
    (fun _ => Array.toList_push) (List.perm_append_singleton id _)

theorem putBefore_perm (sibling id : NodeId) :
    ∀ members, sibling ∈ members → (putBefore sibling id members).Perm (id :: members)
  | [], member => by simp at member
  | other :: rest, member => by
    unfold putBefore
    split
    · exact List.Perm.refl _
    next different =>
      have later : sibling ∈ rest := (List.mem_cons.mp member).resolve_left (Ne.symm different)
      have moved := (putBefore_perm sibling id rest later).cons other
      exact moved.trans (List.Perm.swap id other rest)

@[simp] theorem size_insertBefore (document : Document) (sibling id : NodeId) :
    (document.insertBefore sibling id).nodes.size = document.nodes.size := by
  unfold insertBefore
  simp only
  split <;> simp

theorem Linked.insertBefore {document : Document} (linked : document.Linked) {id : NodeId}
    (inner : document.IsInner id) (sibling : NodeId) :
    (document.insertBefore sibling id).Linked := by
  unfold Document.insertBefore
  simp only
  split
  · exact linked.detach id
  next parent placed =>
    have member := ((linked.detach id).child_iff parent sibling).mpr placed
    have known := lt_size_of_mem_children member
    exact linked.place inner (by simpa using known) _ (putBefore sibling id) (fun _ => rfl)
      (putBefore_perm sibling id _ member)

theorem Linked.moveChildren {document : Document} (linked : document.Linked) {target : NodeId}
    (known : target < document.nodes.size) (source : NodeId) :
    (document.moveChildren source target).Linked := by
  have moved : ∀ (ids : List NodeId) (current : Document), current.Linked →
      target < current.nodes.size → (∀ id ∈ ids, current.IsInner id) →
      (ids.foldl (fun document id => document.append target id) current).Linked := by
    intro ids
    induction ids with
    | nil => exact fun _ linked _ _ => linked
    | cons id rest step =>
      intro current linked known inner
      have head := inner id List.mem_cons_self
      refine step _ (linked.append head known) (by simpa using known) ?_
      intro other member
      exact (inner other (List.mem_cons_of_mem id member)).mono (by simp)
  exact moved _ document linked known fun id member => linked.isInner_of_mem member

@[simp] theorem size_moveChildren (document : Document) (source target : NodeId) :
    (document.moveChildren source target).nodes.size = document.nodes.size := by
  unfold moveChildren
  generalize document.children source = ids
  induction ids generalizing document with
  | nil => rfl
  | cons id rest step => simp [step]

/-! ## New nodes -/

@[simp] theorem size_create (document : Document) (data : NodeData) :
    (document.create data).2.nodes.size = document.nodes.size + 1 := by
  simp [create]

@[simp] theorem create_fst (document : Document) (data : NodeData) :
    (document.create data).1 = document.nodes.size := rfl

theorem node?_create (document : Document) (data : NodeData) (other : NodeId) :
    (document.create data).2.node? other =
      if other = document.nodes.size then some ⟨data, none, #[]⟩ else document.node? other := by
  simp only [create, node?, Array.getElem?_push]

@[simp] theorem parent?_create (document : Document) (data : NodeData) (other : NodeId) :
    (document.create data).2.parent? other = document.parent? other := by
  unfold parent?
  rw [node?_create]
  split
  next new =>
    have missing := (document.node?_eq_none_iff other).mpr (by simp [new])
    simp [missing]
  next => rfl

@[simp] theorem children_create (document : Document) (data : NodeData) (other : NodeId) :
    (document.create data).2.children other = document.children other := by
  unfold children
  rw [node?_create]
  by_cases new : other = document.nodes.size
  · have missing := (document.node?_eq_none_iff other).mpr (by simp [new])
    subst new
    simp [missing]
  · simp [new]

theorem Linked.create {document : Document} (linked : document.Linked) (data : NodeData) :
    (document.create data).2.Linked where
  root := by
    have pos := linked.size_pos
    have old : rootId ≠ document.nodes.size := Nat.ne_of_lt pos
    have root := linked.root
    unfold Document.data at root ⊢
    rw [node?_create, if_neg old]
    exact root
  top := by rw [parent?_create, linked.top]
  child_iff := by
    intro parent id
    rw [children_create, parent?_create, linked.child_iff]
  nodup := by
    intro parent
    rw [children_create]
    exact linked.nodup parent

theorem Linked.isInner_new {document later : Document} (linked : document.Linked)
    (grown : document.nodes.size < later.nodes.size) : later.IsInner document.nodes.size :=
  ⟨Nat.ne_of_gt linked.size_pos, grown⟩

theorem Linked.isInner_create {document : Document} (linked : document.Linked) (data : NodeData) :
    (document.create data).2.IsInner document.nodes.size :=
  linked.isInner_new (by simp)

theorem children_eq_nil (document : Document) (id : NodeId)
    (missing : ¬id < document.nodes.size) : document.children id = [] := by
  simp [children, (document.node?_eq_none_iff id).mpr missing]

theorem parent?_eq_none (document : Document) (id : NodeId)
    (missing : ¬id < document.nodes.size) : document.parent? id = none := by
  simp [parent?, (document.node?_eq_none_iff id).mpr missing]

@[simp] theorem createElement_fst (document : Document) (name : ElementName) (attrs : List Attr) :
    (document.createElement name attrs).1 = document.nodes.size := by
  unfold createElement
  simp only
  split <;> rfl

theorem size_lt_createElement (document : Document) (name : ElementName) (attrs : List Attr) :
    document.nodes.size < (document.createElement name attrs).2.nodes.size := by
  unfold createElement
  simp only
  split
  · simp only [size_modify, size_create]
    omega
  · simp

theorem size_le_createElement (document : Document) (name : ElementName) (attrs : List Attr) :
    document.nodes.size ≤ (document.createElement name attrs).2.nodes.size :=
  Nat.le_of_lt (document.size_lt_createElement name attrs)

theorem Linked.isInner_createElement {document : Document} (linked : document.Linked)
    (name : ElementName) (attrs : List Attr) :
    (document.createElement name attrs).2.IsInner (document.createElement name attrs).1 := by
  rw [createElement_fst]
  exact linked.isInner_new (document.size_lt_createElement name attrs)

/-- A node in no place becomes the only child of one that has no children. -/
theorem Linked.hold {document : Document} (linked : document.Linked) {id holder : NodeId}
    (inner : document.IsInner holder) (free : document.parent? holder = none)
    (known : id < document.nodes.size) (empty : document.children id = []) :
    ((document.modify holder fun node => { node with parent := some id }).modify id
      fun node => { node with children := #[holder] }).Linked := by
  have listed : ∀ other, ((document.modify holder fun node => { node with parent := some id }).modify
      id fun node => { node with children := #[holder] }).children other =
        if other = id then [holder] else document.children other := by
    intro other
    rw [children_setChildren _ _ _ _ (fun _ => [holder]) (by rw [size_modify]; exact known)
      (fun _ => rfl), children_setParent]
  refine linked.attach holder id inner.1 free ?_ ?_ ?_ ?_
  · rw [data_setChildren, data_setParent]
  · intro other
    rw [parent?_setChildren, parent?_setParent _ _ _ _ inner.2]
  · intro other different
    rw [listed, if_neg different]
  · rw [listed, if_pos rfl, empty]

theorem Linked.createElement {document : Document} (linked : document.Linked) (name : ElementName)
    (attrs : List Attr) : (document.createElement name attrs).2.Linked := by
  have created := linked.create (.element name (Attr.ordered attrs))
  unfold Document.createElement
  simp only
  split
  next =>
    have empty := document.children_eq_nil document.nodes.size (Nat.lt_irrefl _)
    have free := document.parent?_eq_none (document.nodes.size + 1) (Nat.not_succ_lt_self)
    refine (created.create .holder).hold (created.isInner_new (by simp)) ?_ ?_ ?_
    · rw [create_fst, size_create, parent?_create, parent?_create, free]
    · rw [size_create, size_create, create_fst]
      exact Nat.lt_succ_of_lt (Nat.lt_succ_self _)
    · rw [children_create, children_create, create_fst, empty]
  next => exact created

/-! ## Text and attributes -/

@[simp] theorem size_extendText (document : Document) (id : NodeId) (more : String) :
    (document.extendText id more).nodes.size = document.nodes.size := by
  simp [extendText]

/-- A change to what nodes other than the root are leaves their places alone. -/
theorem Linked.modify {document : Document} (linked : document.Linked) (id : NodeId)
    (change : Node → Node) (root : ∀ node, node.data = .root → (change node).data = .root)
    (parent : ∀ node, (change node).parent = node.parent)
    (children : ∀ node, (change node).children = node.children) :
    (document.modify id change).Linked where
  root := by
    have before := linked.root
    obtain ⟨node, found⟩ := document.exists_node rootId linked.size_pos
    unfold Document.data at before ⊢
    rw [node?_modify]
    rw [found] at before ⊢
    by_cases same : rootId = id
    · simpa [same] using root node before
    · simpa [same] using before
  top := by rw [parent?_modify _ _ _ _ parent, linked.top]
  child_iff := by
    intro place other
    rw [parent?_modify _ _ _ _ parent, children_modify _ _ _ _ children, linked.child_iff]
  nodup := by
    intro place
    rw [children_modify _ _ _ _ children]
    exact linked.nodup place

theorem Linked.extendText {document : Document} (linked : document.Linked) (id : NodeId)
    (more : String) : (document.extendText id more).Linked := by
  refine linked.modify id _ ?_ ?_ ?_
  · intro node isRoot
    simp [isRoot]
  all_goals
    intro node
    split <;> rfl

@[simp] theorem size_addMissingAttrs (document : Document) (id : NodeId) (more : List Attr) :
    (document.addMissingAttrs id more).nodes.size = document.nodes.size := by
  simp [addMissingAttrs]

theorem Linked.addMissingAttrs {document : Document} (linked : document.Linked) (id : NodeId)
    (more : List Attr) : (document.addMissingAttrs id more).Linked := by
  refine linked.modify id _ ?_ ?_ ?_
  · intro node isRoot
    simp [isRoot]
  all_goals
    intro node
    split <;> rfl

theorem Linked.appendText {document : Document} (linked : document.Linked) {parent : NodeId}
    (known : parent < document.nodes.size) (text : String) :
    (document.appendText parent text).Linked := by
  have added : ((document.create (.text text)).2.append parent document.nodes.size).Linked := by
    have inner := linked.isInner_create (.text text)
    exact (linked.create (.text text)).append inner (by simpa using Nat.lt_succ_of_lt known)
  unfold Document.appendText
  split
  · split
    · exact linked.extendText _ _
    · exact added
  · exact added

theorem size_le_appendText (document : Document) (parent : NodeId) (text : String) :
    document.nodes.size ≤ (document.appendText parent text).nodes.size := by
  unfold appendText
  split
  · split <;> simp
  · simp

theorem Linked.insertTextBefore {document : Document} (linked : document.Linked)
    (sibling : NodeId) (text : String) : (document.insertTextBefore sibling text).Linked := by
  have added :
      ((document.create (.text text)).2.insertBefore sibling document.nodes.size).Linked := by
    have inner := linked.isInner_create (.text text)
    exact (linked.create (.text text)).insertBefore inner sibling
  unfold Document.insertTextBefore
  split
  · exact linked
  · split
    · split
      · exact linked.extendText _ _
      · exact added
    · exact added

theorem size_le_insertTextBefore (document : Document) (sibling : NodeId) (text : String) :
    document.nodes.size ≤ (document.insertTextBefore sibling text).nodes.size := by
  unfold insertTextBefore
  split
  · exact Nat.le_refl _
  · split
    · split <;> simp
    · simp

end PageFeed.Html.Document
