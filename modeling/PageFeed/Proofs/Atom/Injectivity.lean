import Mathlib.Logic.Function.Basic
import PageFeed.Proofs.Atom.Layout

/-! Telling feeds apart by their documents. Values that are written as text can be read back, so a
document determines the elements that stand in it, and these determine the feed but for one thing: a
field `entry` without text and an entry without fields have the same element. The names of a feed are in
order and distinct and its entries stand behind all of its fields, so the two can only be mistaken for
each other where the fields end. -/

namespace PageFeed.Atom

open Xml

/-- A value that begins and ends like a CDATA section, and so is not written as text. -/
def IsSection (value : String) : Prop :=
  ∃ inner, value.toList = cdataOpen ++ inner ++ cdataClose

def IsPlain (feed : Feed) : Prop := ∀ field ∈ writtenFields feed, ¬IsSection field.2

/-- The second feed has a field `entry` without text, behind all its other fields, where the first one
has an entry without fields, in front of all its other entries. -/
structure EntryAsField (first second : Feed) : Prop where
  info : second.info.toList = first.info.toList ++ [("entry", "")]
  entries : first.entries = ∅ :: second.entries

instance (first second : Feed) : Decidable (EntryAsField first second) :=
  decidable_of_iff (second.info.toList = first.info.toList ++ [("entry", "")] ∧
    first.entries = ∅ :: second.entries) ⟨fun held => ⟨held.1, held.2⟩, fun held => ⟨held.1, held.2⟩⟩

theorem not_isSection_iff (value : String) :
    ¬IsSection value ↔ cdataContent? value.toList = none := by
  simp only [IsSection, ← cdataContent?_eq_some_iff]
  cases cdataContent? value.toList <;> simp

instance (feed : Feed) : Decidable (IsPlain feed) :=
  decidable_of_iff (∀ field ∈ writtenFields feed, cdataContent? field.2.toList = none)
    (forall₂_congr fun field _ => (not_isSection_iff field.2).symm)

theorem IsPlain.isClosed {feed : Feed} (plain : IsPlain feed) :
    ∀ field ∈ writtenFields feed, IsClosed field.2 := by
  intro field member inner marked
  exact absurd ⟨inner, marked⟩ (plain field member)

/-! ## Nodes -/

def textNode (field : String × String) : Node := .element field.1 [] (textNodes field.2.toList)

def recordNode (entry : Entry) : Node := .element "entry" [] (entry.toList.map textNode)

theorem textNodes_injective : Function.Injective textNodes := by
  intro first second same
  cases first <;> cases second <;> simp_all [textNodes]

theorem textNode_injective : Function.Injective textNode := by
  intro first second same
  obtain ⟨name, _, text⟩ := Node.element.inj same
  exact Prod.ext name (String.toList_injective (textNodes_injective text))

theorem recordNode_injective : Function.Injective recordNode := by
  intro first second same
  obtain ⟨_, _, children⟩ := Node.element.inj same
  exact Fields.ext_toList (textNode_injective.list_map children)

/-- Of all fields and entries, only two have the same element. -/
theorem textNode_eq_recordNode_iff (field : String × String) (entry : Entry) :
    textNode field = recordNode entry ↔ field = ("entry", "") ∧ entry = ∅ := by
  constructor
  · intro same
    obtain ⟨name, _, children⟩ := Node.element.inj same
    have noText : field.2.toList = [] := by
      by_contra more
      -- A field with text has character data in it, and an entry has nothing but elements.
      obtain ⟨inner, rest, fields⟩ : ∃ inner rest, entry.toList = inner :: rest := by
        cases fields : entry.toList with
        | nil => simp [textNodes, fields, more] at children
        | cons inner rest => exact ⟨inner, rest, rfl⟩
      simp [textNodes, fields, more, textNode] at children
    have noFields : entry.toList = [] := by
      rw [noText] at children
      exact List.map_eq_nil_iff.1 children.symm
    exact ⟨Prod.ext name (String.toList_injective noText), Fields.ext_toList noFields⟩
  · rintro ⟨rfl, rfl⟩
    rfl

theorem root_layout {feed : Feed} (plain : IsPlain feed) :
    (layout feed).root = .element "feed" [("xmlns", nameSpace)]
      (feed.info.toList.map textNode ++ feed.entries.map recordNode) := by
  have asText : ∀ field ∈ writtenFields feed, fieldNode field = textNode field := by
    intro field member
    rw [fieldNode, readerText_eq, (not_isSection_iff field.2).1 (plain field member)]
    rfl
  have info : feed.info.toList.map fieldNode = feed.info.toList.map textNode :=
    List.map_congr_left fun field member => asText field (List.mem_append_left _ member)
  have entries : feed.entries.map entryNode = feed.entries.map recordNode := by
    apply List.map_congr_left
    intro entry among
    have fields : entry.toList.map fieldNode = entry.toList.map textNode :=
      List.map_congr_left fun field member =>
        asText field (List.mem_append_right _ (List.mem_flatMap.2 ⟨entry, among, member⟩))
    rw [entryNode, fields, recordNode]
  rw [layout, info, entries]
  rfl

/-! ## Documents -/

/-- Fields with distinct names that have the elements of entries are at most one field. -/
theorem eq_nil_or_of_map_eq {fields : List (String × String)} {entries : List Entry}
    (distinct : (fields.map Prod.fst).Pairwise (· < ·))
    (same : fields.map textNode = entries.map recordNode) :
    fields = [] ∧ entries = [] ∨ fields = [("entry", "")] ∧ entries = [∅] := by
  match fields, entries with
  | [], [] => exact .inl ⟨rfl, rfl⟩
  | field :: fields, entry :: entries =>
    obtain ⟨firstNode, more⟩ := List.cons.inj same
    obtain ⟨rfl, rfl⟩ := (textNode_eq_recordNode_iff field entry).1 firstNode
    match fields, entries with
    | [], [] => exact .inr ⟨rfl, rfl⟩
    | other :: _, another :: _ =>
      obtain ⟨rfl, _⟩ := (textNode_eq_recordNode_iff other another).1 (List.cons.inj more).1
      have before : "entry" < "entry" := (List.pairwise_cons.1 distinct).1 _ List.mem_cons_self
      exact absurd before (String.lt_irrefl _)

theorem eq_or_entryAsField_of_append {first second : Feed} {between : List Node}
    (info : second.info.toList.map textNode = first.info.toList.map textNode ++ between)
    (entries : first.entries.map recordNode = between ++ second.entries.map recordNode) :
    first = second ∨ EntryAsField first second := by
  obtain ⟨fields, moreFields, infoParts, sameFields, isBetween⟩ := List.map_eq_append_iff.1 info
  obtain ⟨moreEntries, records, entryParts, alsoBetween, sameRecords⟩ :=
    List.map_eq_append_iff.1 entries
  rw [textNode_injective.list_map sameFields] at infoParts
  rw [recordNode_injective.list_map sameRecords] at entryParts
  have distinct : (moreFields.map Prod.fst).Pairwise (· < ·) := by
    have sorted := second.info.sorted
    rw [infoParts, List.map_append] at sorted
    exact (List.pairwise_append.1 sorted).2.1
  rcases eq_nil_or_of_map_eq distinct (isBetween.trans alsoBetween.symm) with
    ⟨rfl, rfl⟩ | ⟨rfl, rfl⟩
  · have sameInfo : first.info = second.info := Fields.ext_toList (by simp [infoParts])
    have sameEntries : first.entries = second.entries := entryParts
    cases first
    cases second
    simp_all
  · exact .inr ⟨infoParts, entryParts⟩

theorem eq_or_entryAsField_of_children {first second : Feed}
    (same : first.info.toList.map textNode ++ first.entries.map recordNode =
      second.info.toList.map textNode ++ second.entries.map recordNode) :
    first = second ∨ EntryAsField first second ∨ EntryAsField second first := by
  rcases List.append_eq_append_iff.1 same with ⟨between, info, entries⟩ | ⟨between, info, entries⟩
  · exact (eq_or_entryAsField_of_append info entries).imp_right .inl
  · exact (eq_or_entryAsField_of_append info entries).imp Eq.symm .inr

theorem EntryAsField.pieces_eq {first second : Feed} (swapped : EntryAsField first second) :
    pieces first = pieces second := by
  have field : fieldPieces ("entry", "") = entryPieces ∅ := rfl
  simp [pieces, fieldsPieces, swapped.info, swapped.entries, field]

/-- Feeds without sections that are rendered have the same document only if they are the same feed, or
if an entry without fields and a field `entry` without text stand in for each other. -/
theorem render_eq_iff {first second : Feed} {text other : String}
    (plain : IsPlain first) (plainOther : IsPlain second)
    (rendered : render none first = .ok text) (renderedOther : render none second = .ok other) :
    text = other ↔ first = second ∨ EntryAsField first second ∨ EntryAsField second first := by
  obtain ⟨rfl, named⟩ := isName_of_render rendered
  obtain ⟨rfl, namedOther⟩ := isName_of_render renderedOther
  constructor
  · intro same
    have written : write (pieces first) = write (pieces second) := String.ofList_injective same
    have document : layout first = layout second := by
      have read := readDocument_pieces named plain.isClosed
      rw [written, readDocument_pieces namedOther plainOther.isClosed] at read
      exact (Option.some.inj read).symm
    have root := congrArg Document.root document
    rw [root_layout plain, root_layout plainOther] at root
    exact eq_or_entryAsField_of_children (Node.element.inj root).2.2
  · rintro (rfl | swapped | swapped)
    · rfl
    · rw [swapped.pieces_eq]
    · rw [swapped.pieces_eq]

/-- A title behind a field `entry`. -/
def titledEntry : Feed where
  info := .ofList [("entry", ""), ("title", "")]
  entries := []

/-- An entry behind the same title. -/
def titledBareEntry : Feed where
  info := .ofList [("title", "")]
  entries := [∅]

theorem render_titledEntry_ne : ∃ text other, render none titledEntry = .ok text ∧
    render none titledBareEntry = .ok other ∧ text ≠ other := by
  obtain ⟨text, rendered⟩ : ∃ text, render none titledEntry = .ok text := ⟨_, rfl⟩
  obtain ⟨other, renderedBare⟩ : ∃ other, render none titledBareEntry = .ok other := ⟨_, rfl⟩
  refine ⟨text, other, rendered, renderedBare, fun same => ?_⟩
  have related := (render_eq_iff (by decide) (by decide) rendered renderedBare).1 same
  exact absurd related (by decide)

/-- Nothing but a field `entry`. -/
def fieldEntry : Feed where
  info := .ofList [("entry", "")]
  entries := []

/-- Nothing but an entry. -/
def bareEntry : Feed where
  info := ∅
  entries := [∅]

/-- Not every feed can be told apart from all others by its document. -/
theorem render_not_injective : ¬∀ (first second : Feed) (text other : String),
    first ≠ second → IsPlain first → IsPlain second →
    render none first = .ok text → render none second = .ok other → text ≠ other := by
  intro apart
  obtain ⟨text, rendered⟩ : ∃ text, render none fieldEntry = .ok text := ⟨_, rfl⟩
  have renderedBare : render none bareEntry = .ok text := rendered
  exact apart fieldEntry bareEntry text text (by decide) (by decide) (by decide) rendered
    renderedBare rfl

end PageFeed.Atom
