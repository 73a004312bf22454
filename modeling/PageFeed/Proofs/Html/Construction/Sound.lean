import PageFeed.Html.Construction.Body
import PageFeed.Proofs.Html.Linked

/-! What every state of a construction satisfies: parents and children agree, and the elements that
are open, like the head, are nodes of the page. Content is only ever put into open elements, so this
is all that the next change to the page relies on. And text that is collected is followed by something
else: no mode that the construction comes back to later is one for text alone. -/

namespace PageFeed.Html

/-- Modes for the text of an element or of a table and nothing else. -/
def Mode.isForText : Mode → Bool
  | .inText | .inTableText => true
  | _ => false

/-- Parents and children agree, the listed elements are nodes other than the root, and the modes that
are kept for later are for more than text. -/
structure Grounded (document : Document) (opened : List NodeId) (head : Option NodeId)
    (returnMode : Mode) (templateModes : List Mode) : Prop where
  linked : document.Linked
  opened : ∀ id ∈ opened, document.IsInner id
  head : ∀ id ∈ head, document.IsInner id
  returnMode : returnMode.isForText = false
  templateModes : ∀ mode ∈ templateModes, mode.isForText = false

namespace Builder

/-- A state in order. The mode that is in force does not count. -/
def Sound (b : Builder) : Prop :=
  Grounded b.document b.opened b.head b.returnMode b.templateModes

variable {b : Builder}

namespace Sound

/-- Nothing but the page, the open elements, the head and the modes for later counts. -/
theorem transfer {later : Builder} (sound : b.Sound) (document : later.document = b.document)
    (opened : later.opened = b.opened) (head : later.head = b.head)
    (returnMode : later.returnMode = b.returnMode)
    (templateModes : later.templateModes = b.templateModes) : later.Sound := by
  unfold Builder.Sound
  rw [document, opened, head, returnMode, templateModes]
  exact sound

theorem returnTo (sound : b.Sound) {mode : Mode} (home : mode.isForText = false) :
    Sound { b with returnMode := mode } :=
  ⟨sound.linked, sound.opened, sound.head, home, sound.templateModes⟩

theorem enterTemplate (sound : b.Sound) {modes : List Mode}
    (homes : ∀ mode ∈ modes, mode.isForText = false) : Sound { b with templateModes := modes } :=
  ⟨sound.linked, sound.opened, sound.head, sound.returnMode, homes⟩

theorem leaveTemplate (sound : b.Sound) : Sound { b with templateModes := b.templateModes.tail } :=
  sound.enterTemplate fun mode member => sound.templateModes mode (List.mem_of_mem_tail member)

/-! ## Closing elements -/

theorem narrow (sound : b.Sound) (opened : List NodeId) (kept : opened ⊆ b.opened) :
    Sound { b with opened } :=
  ⟨sound.linked, fun id member => sound.opened id (kept member), sound.head, sound.returnMode,
    sound.templateModes⟩

theorem pop (sound : b.Sound) : b.pop.Sound :=
  sound.narrow _ fun _ => List.mem_of_mem_tail

theorem popUntil (sound : b.Sound) (property : ElementName → Bool) :
    (b.popUntil property).Sound :=
  sound.narrow _ fun _ member => (List.dropWhile_sublist _).mem (List.mem_of_mem_tail member)

theorem popUntilNamed (sound : b.Sound) (localName : String) :
    (b.popUntilNamed localName).Sound := sound.popUntil _

theorem popUntilCurrent (sound : b.Sound) (property : ElementName → Bool) :
    (b.popUntilCurrent property).Sound := sound.narrow _ (List.dropWhile_sublist _).subset

theorem popWhile (sound : b.Sound) (property : ElementName → Bool) :
    (b.popWhile property).Sound := sound.narrow _ (List.dropWhile_sublist _).subset

theorem closeImplied (sound : b.Sound) : b.closeImplied.Sound := sound.popWhile _

theorem closeImpliedExcept (sound : b.Sound) (localName : String) :
    (b.closeImpliedExcept localName).Sound := sound.popWhile _

theorem closeParagraph (sound : b.Sound) : b.closeParagraph.Sound :=
  (sound.closeImpliedExcept "p").popUntilNamed "p"

theorem closeParagraphInScope (sound : b.Sound) : b.closeParagraphInScope.Sound := by
  unfold Builder.closeParagraphInScope
  split
  · exact sound.closeParagraph
  · exact sound

theorem close (sound : b.Sound) (id : NodeId) : (b.close id).Sound :=
  sound.narrow _ List.erase_subset

theorem clearFormatting (sound : b.Sound) : b.clearFormatting.Sound := sound

theorem ite {condition : Prop} [Decidable condition] {yes no : Builder} (first : yes.Sound)
    (second : no.Sound) : Builder.Sound (if condition then yes else no) := by
  split
  · exact first
  · exact second

theorem forget (sound : b.Sound) (id : NodeId) : (b.forget id).Sound := sound

theorem markFormatting (sound : b.Sound) : b.markFormatting.Sound := sound

theorem closeNamed_go (sound : b.Sound) (localName : String) (ids : List NodeId)
    (kept : ids ⊆ b.opened) : (closeNamed.go b localName ids).Sound := by
  induction ids with
  | nil => exact sound
  | cons id outer step =>
    have later : outer ⊆ b.opened := fun _ member => kept (List.mem_cons_of_mem id member)
    unfold closeNamed.go
    split
    · exact sound.narrow outer later
    · split
      · exact sound
      · exact step later

theorem closeNamed (sound : b.Sound) (localName : String) :
    (b.closeNamed localName).Sound := sound.closeNamed_go localName _ (List.Subset.refl _)

/-! ## Places -/

theorem grow (sound : b.Sound) {document : Document} (linked : document.Linked)
    (grown : b.document.nodes.size ≤ document.nodes.size) : Sound { b with document } :=
  ⟨linked, fun id member => (sound.opened id member).mono grown,
    fun id member => (sound.head id member).mono grown, sound.returnMode, sound.templateModes⟩

theorem push (sound : b.Sound) {id : NodeId} (inner : b.document.IsInner id) : (b.push id).Sound := by
  refine ⟨sound.linked, ?_, sound.head, sound.returnMode, sound.templateModes⟩
  intro other member
  rcases List.mem_cons.mp member with same | later
  · exact same ▸ inner
  · exact sound.opened other later

theorem getD_lt_size (sound : b.Sound) (id : Option NodeId) (known : ∀ inner ∈ id, inner ∈ b.opened) :
    id.getD Document.rootId < b.document.nodes.size := by
  cases id with
  | none => exact sound.linked.size_pos
  | some inner => exact (sound.opened inner (known inner rfl)).2

end Sound

/-- Whether a place lies within the first nodes of a page. -/
def Place.Within (size : Nat) : Place → Prop
  | .endOf parent => parent < size
  | .before _ outer => outer < size

theorem Place.Within.mono {place : Place} {size later : Nat} (within : place.Within size)
    (grown : size ≤ later) : place.Within later := by
  cases place <;> exact Nat.lt_of_lt_of_le within grown

namespace Sound

theorem fosterPlace_within (sound : b.Sound) (ids : List NodeId) (kept : ids ⊆ b.opened) :
    (b.fosterPlace ids).Within b.document.nodes.size := by
  induction ids with
  | nil => exact sound.getD_lt_size _ fun _ found => List.mem_of_getLast? found
  | cons id outer step =>
    have later : outer ⊆ b.opened := fun _ member => kept (List.mem_cons_of_mem id member)
    unfold fosterPlace
    split
    · exact sound.linked.templateContent_lt (sound.opened id (kept List.mem_cons_self)).2
    · split
      · exact sound.getD_lt_size _ fun _ found => later (List.mem_of_head? found)
      · exact step later

theorem placeIn_within (sound : b.Sound) {target : NodeId} (known : target < b.document.nodes.size) :
    (b.placeIn target).Within b.document.nodes.size := by
  unfold placeIn
  split
  · exact sound.fosterPlace_within _ (List.Subset.refl _)
  · split
    · exact sound.linked.templateContent_lt known
    · exact known

theorem place_within (sound : b.Sound) : b.place.Within b.document.nodes.size :=
  sound.placeIn_within (sound.getD_lt_size _ fun _ found => List.mem_of_head? found)

end Sound

@[simp] theorem size_putNode (document : Document) (place : Place) (id : NodeId) :
    (putNode document place id).nodes.size = document.nodes.size := by
  unfold putNode
  split
  · simp
  · split <;> simp

theorem linked_putNode {document : Document} (linked : document.Linked) {place : Place}
    (within : place.Within document.nodes.size) {id : NodeId} (inner : document.IsInner id) :
    (putNode document place id).Linked := by
  unfold putNode
  split
  · exact linked.append inner within
  · split
    · exact linked.insertBefore inner _
    · exact linked.append inner within

theorem size_le_putText (document : Document) (place : Place) (text : String) :
    document.nodes.size ≤ (putText document place text).nodes.size := by
  unfold putText
  split
  · exact document.size_le_appendText _ text
  · split
    · exact document.size_le_insertTextBefore _ text
    · exact document.size_le_appendText _ text

theorem linked_putText {document : Document} (linked : document.Linked) {place : Place}
    (within : place.Within document.nodes.size) (text : String) :
    (putText document place text).Linked := by
  unfold putText
  split
  · exact linked.appendText within text
  · split
    · exact linked.insertTextBefore _ text
    · exact linked.appendText within text

namespace Sound

/-! ## Adding content -/

theorem addElement_isInner (sound : b.Sound) (name : ElementName) (attrs : List Attr) :
    (b.addElement name attrs).2.document.IsInner (b.addElement name attrs).1 := by
  have inner := sound.linked.isInner_createElement name attrs
  exact inner.mono (Nat.le_of_eq (size_putNode _ _ _).symm)

theorem addElement (sound : b.Sound) (name : ElementName) (attrs : List Attr) :
    (b.addElement name attrs).2.Sound := by
  have grown := b.document.size_le_createElement name attrs
  have inner := sound.linked.isInner_createElement name attrs
  have placed := linked_putNode (sound.linked.createElement name attrs)
    (sound.place_within.mono grown) inner
  unfold Builder.addElement
  generalize b.document.createElement name attrs = created at grown inner placed ⊢
  exact sound.grow placed (by simpa using grown)

theorem openElement (sound : b.Sound) (name : ElementName) (attrs : List Attr) :
    (b.openElement name attrs).2.Sound :=
  (sound.addElement name attrs).push (sound.addElement_isInner name attrs)

theorem openTag (sound : b.Sound) (tag : Tag) : (b.openTag tag).Sound :=
  sound.openElement _ _

theorem openMissing (sound : b.Sound) (localName : String) :
    (b.openMissing localName).Sound := sound.openElement _ _

theorem addTag (sound : b.Sound) (tag : Tag) : (b.addTag tag).Sound :=
  sound.addElement _ _

theorem addText (sound : b.Sound) (content : List Char) : (b.addText content).Sound :=
  sound.grow (linked_putText sound.linked sound.place_within _) (size_le_putText _ _ _)

theorem addComment (sound : b.Sound) (text : String) : (b.addComment text).Sound := by
  have inner := sound.linked.isInner_create (.comment text)
  have placed := linked_putNode (sound.linked.create (.comment text))
    (sound.place_within.mono (by simp)) inner
  exact sound.grow placed (by simp)

theorem addCommentTo (sound : b.Sound) {parent : NodeId} (known : parent < b.document.nodes.size)
    (text : String) : (b.addCommentTo parent text).Sound := by
  have inner := sound.linked.isInner_create (.comment text)
  have placed := (sound.linked.create (.comment text)).append inner
    (by simpa using Nat.lt_succ_of_lt known)
  exact sound.grow placed (by simp)

theorem addCommentToRoot (sound : b.Sound) (text : String) :
    (b.addCommentTo Document.rootId text).Sound := sound.addCommentTo sound.linked.size_pos text

theorem openRoot (sound : b.Sound) (attrs : List Attr) : (b.openRoot attrs).Sound := by
  have grown := b.document.size_le_createElement (.html "html") attrs
  have inner := sound.linked.isInner_createElement (.html "html") attrs
  have placed := (sound.linked.createElement (.html "html") attrs).append inner
    (Nat.lt_of_lt_of_le sound.linked.size_pos grown)
  have later := sound.grow placed (by simpa using grown)
  exact later.push (inner.mono (by simp))

/-! ## Formatting elements -/

theorem reopen (sound : b.Sound) (kept entries : List Formatting) : (b.reopen kept entries).Sound := by
  induction entries generalizing b kept with
  | nil => exact sound
  | cons entry rest step =>
    cases entry with
    | marker => exact step sound _
    | element id tag => exact step (sound.openElement _ _) _

theorem reopenFormatting (sound : b.Sound) : b.reopenFormatting.Sound := by
  unfold Builder.reopenFormatting
  simp only
  split
  · exact sound
  · exact sound.reopen _ _

theorem openFormatting (sound : b.Sound) (tag : Tag) : (b.openFormatting tag).Sound := by
  unfold Builder.openFormatting
  simp only
  split
  · split
    · exact (sound.forget _).openElement _ _
    · exact sound.openElement _ _
  · exact sound.openElement _ _

theorem replaceOpened_isInner {document : Document} {opened : List NodeId}
    (inner : ∀ id ∈ opened, document.IsInner id) (old : NodeId) {new : NodeId}
    (known : document.IsInner new) : ∀ id ∈ replaceOpened old new opened, document.IsInner id := by
  intro id member
  obtain ⟨former, formerMember, same⟩ := List.mem_map.mp member
  split at same
  · exact same ▸ known
  · exact same ▸ inner former formerMember

/-- Walking over the elements in between keeps the moved node in the page, together with all nodes
that are there already. -/
theorem copyBetween (sound : b.Sound) (block : NodeId) (count : Nat) (last : NodeId)
    (bookmark : Bookmark) (between : List NodeId) (inner : b.document.IsInner last) :
    (b.copyBetween block count last bookmark between).1.Sound ∧
      (b.copyBetween block count last bookmark between).1.document.IsInner
        (b.copyBetween block count last bookmark between).2.1 ∧
      b.document.nodes.size ≤
        (b.copyBetween block count last bookmark between).1.document.nodes.size := by
  induction between generalizing b count last bookmark with
  | nil => exact ⟨sound, inner, Nat.le_refl _⟩
  | cons id rest step =>
    unfold Builder.copyBetween
    split
    · exact step ((sound.forget id).close id) _ _ _ inner
    · split
      · exact step (sound.close id) _ _ _ inner
      next tag _ =>
        have grown := b.document.size_le_createElement (.html tag.name) tag.attrs
        have copied := sound.linked.isInner_createElement (.html tag.name) tag.attrs
        have linked := sound.linked.createElement (.html tag.name) tag.attrs
        generalize b.document.createElement (.html tag.name) tag.attrs = created
          at grown copied linked ⊢
        obtain ⟨copy, document⟩ := created
        have placed := sound.grow (linked.append (inner.mono grown) copied.2) (by simpa using grown)
        have known : (document.append copy last).IsInner copy := copied.mono (by simp)
        have replaced : Sound { b with
            document := document.append copy last
            opened := Builder.replaceOpened id copy b.opened
            formatting := replaceFormatting id copy b.formatting } :=
          ⟨placed.linked, replaceOpened_isInner placed.opened id known, placed.head,
            placed.returnMode, placed.templateModes⟩
        obtain ⟨after, moved, more⟩ := step replaced (count + 1) copy
          (if last = block then .after copy else bookmark) known
        exact ⟨after, moved, Nat.le_trans (by simpa using grown) more⟩

theorem openInside_subset (block copy : NodeId) (opened : List NodeId) :
    openInside block copy opened ⊆ copy :: opened := by
  induction opened with
  | nil => exact List.nil_subset _
  | cons id outer step =>
    unfold openInside
    split
    · exact List.Subset.refl _
    · intro other member
      rcases List.mem_cons.mp member with same | later
      · simp [same]
      · have found := step later
        simp only [List.mem_cons] at found ⊢
        tauto

/-- A node goes from its place to where the content of another is put. -/
theorem linked_move (sound : b.Sound) {id target : NodeId} (inner : b.document.IsInner id)
    (known : target < b.document.nodes.size) :
    (putNode (b.document.detach id)
      (placeIn { b with document := b.document.detach id } target) id).Linked := by
  have taken := sound.grow (sound.linked.detach id) (by simp)
  have within := taken.placeIn_within (by simpa using known)
  exact linked_putNode taken.linked within (inner.mono (by simp))

/-- A new element takes the content of a block and becomes the content of the block. -/
theorem linked_wrap {document : Document} (linked : document.Linked) (block : NodeId)
    (known : block < document.nodes.size) (name : ElementName) (attrs : List Attr) :
    (((document.createElement name attrs).2.moveChildren block
      (document.createElement name attrs).1).append block
        (document.createElement name attrs).1).Linked := by
  have inner := linked.isInner_createElement name attrs
  have emptied := (linked.createElement name attrs).moveChildren inner.2 block
  have grown := document.size_le_createElement name attrs
  exact emptied.append (inner.mono (by simp)) (Nat.lt_of_lt_of_le known (by simpa using grown))

theorem splitAround (sound : b.Sound) (subject : NodeId) (tag : Tag) {block : NodeId}
    (between : List NodeId) {outer : List NodeId} (inner : b.document.IsInner block)
    (kept : outer ⊆ b.opened) : (b.splitAround subject tag block between outer).Sound := by
  obtain ⟨walked, moved, grown⟩ := sound.copyBetween block 0 block .inPlace between inner
  have target := sound.getD_lt_size outer.head? fun _ found => kept (List.mem_of_head? found)
  unfold Builder.splitAround
  generalize b.copyBetween block 0 block .inPlace between = walk at walked moved grown ⊢
  obtain ⟨after, last, bookmark⟩ := walk
  have put := walked.linked_move moved (Nat.lt_of_lt_of_le target grown)
  have size := size_putNode (after.document.detach last)
    (placeIn { after with document := after.document.detach last }
      (outer.head?.getD Document.rootId)) last
  simp only
  generalize putNode (after.document.detach last) _ last = document at put size ⊢
  rw [Document.size_detach] at size
  have copied := put.isInner_createElement (.html tag.name) tag.attrs
  have wrapped := linked_wrap put block
    (Nat.lt_of_lt_of_le inner.2 (by simpa [size] using grown)) (.html tag.name) tag.attrs
  have more := document.size_le_createElement (.html tag.name) tag.attrs
  generalize document.createElement (.html tag.name) tag.attrs = created at copied wrapped more ⊢
  obtain ⟨copy, document'⟩ := created
  have later := walked.grow wrapped (by simpa [size] using more)
  refine ⟨wrapped, ?_, later.head, later.returnMode, later.templateModes⟩
  intro id member
  rcases List.mem_cons.mp (openInside_subset block copy _ member) with same | former
  · rw [same]
    exact copied.mono (by simp)
  · exact later.opened id (List.erase_subset former)

theorem adoptTimes (sound : b.Sound) (localName : String) (times : Nat) :
    (b.adoptTimes localName times).Sound := by
  induction times generalizing b with
  | zero => exact sound
  | succ times step =>
    unfold Builder.adoptTimes
    split
    next subject tag _ =>
      split
      · exact sound.forget subject
      · split
        · exact sound
        · have within : b.opened.takeWhile (· != subject) ⊆ b.opened :=
            (List.takeWhile_sublist _).subset
          have beyond : (b.opened.dropWhile (· != subject)).tail ⊆ b.opened :=
            fun _ member => (List.dropWhile_sublist _).mem (List.mem_of_mem_tail member)
          simp only
          split
          · exact (sound.narrow _ beyond).forget subject
          next block found =>
            have member := List.mem_reverse.mp (List.mem_of_find?_eq_some found)
            exact step (sound.splitAround subject tag _ (sound.opened block (within member)) beyond)
    · exact sound.closeNamed localName

theorem adopt (sound : b.Sound) (localName : String) : (b.adopt localName).Sound := by
  have either : ∀ closable : Bool,
      (if closable then b.pop else Builder.adoptTimes localName 8 b).Sound := by
    intro closable
    split
    · exact sound.pop
    · exact sound.adoptTimes localName 8
  exact either _

/-! ## Foreign elements -/

theorem addForeign (sound : b.Sound) (vocabulary : Vocabulary) (localName : String)
    (tag : Tag) : (b.addForeign vocabulary localName tag).Sound := by
  have added := sound.addElement ⟨vocabulary, localName⟩ (tag.attrs.map (foreignAttr vocabulary))
  have inner :=
    sound.addElement_isInner ⟨vocabulary, localName⟩ (tag.attrs.map (foreignAttr vocabulary))
  unfold Builder.addForeign
  generalize b.addElement _ _ = placed at added inner ⊢
  obtain ⟨id, b⟩ := placed
  simp only at added inner ⊢
  split
  · exact added
  · exact added.push inner

theorem addWithinForeign (sound : b.Sound) (vocabulary : Vocabulary) (tag : Tag) :
    (b.addWithinForeign vocabulary tag).Sound := sound.addForeign _ _ _

end Sound

end Builder

end PageFeed.Html
