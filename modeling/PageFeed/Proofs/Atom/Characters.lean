import PageFeed.Proofs.Atom.Indentation
import PageFeed.Proofs.Atom.Injectivity
import PageFeed.Proofs.Xml.Grammar

/-! The characters of Atom documents. Tags, line breaks and entities are made of characters that a
document may hold, and names have no others either. Values are written whatever characters they hold:
the five that have a meaning in markup are replaced, and all others stay. So the characters in a document
that no document may hold are just those of its values, and they alone keep it from being well-formed. -/

namespace PageFeed

namespace Xml

/-- The characters of a text that no document may hold. -/
def strays (text : List Char) : List Char := text.filter fun c => !decide (XmlChar c)

theorem strays_eq_nil_iff {text : List Char} : strays text = [] ↔ ∀ c ∈ text, XmlChar c := by
  simp [strays]

theorem strays_append (first second : List Char) :
    strays (first ++ second) = strays first ++ strays second := List.filter_append ..

theorem strays_flatMap {α : Type} (items : List α) (written : α → List Char) :
    strays (items.flatMap written) = items.flatMap fun item => strays (written item) :=
  List.filter_flatMap ..

theorem strays_name {name : String} (named : isName name) : strays name.toList = [] := by
  rw [strays_eq_nil_iff]
  intro c member
  exact ((isNamePart_iff c).1 (isNamePart_of_isName named c member)).xmlChar

theorem strays_escapeChar (c : Char) : strays (escapeChar c) = strays [c] := by
  unfold escapeChar
  split <;> rfl

/-- Escaping neither removes a stray character nor adds one. -/
theorem strays_escape (text : List Char) : strays (escape text) = strays text := by
  rw [escape, strays_flatMap]
  induction text with
  | nil => rfl
  | cons c rest ih =>
    rw [List.flatMap_cons, ih, strays_escapeChar, ← strays_append, List.singleton_append]

theorem strays_openTag {name : String} (named : isName name) :
    strays (write [.openTag name []]) = [] := by
  have written : write [.openTag name []] = ['<'] ++ (name.toList ++ [] ++ ['>']) ++ [] := rfl
  simp only [written, strays_append, strays_name named]
  decide

theorem strays_closeTag {name : String} (named : isName name) :
    strays (write [.closeTag name]) = [] := by
  have written : write [.closeTag name] = ['<', '/'] ++ (name.toList ++ ['>']) ++ [] := rfl
  simp only [written, strays_append, strays_name named]
  decide

theorem strays_lineBreak (indent : Option Nat) (depth : Nat) :
    strays (lineBreak indent depth) = [] := by
  rw [strays_eq_nil_iff]
  intro c member
  cases indent with
  | none => cases member
  | some width =>
    rcases List.mem_cons.1 member with rfl | spaces
    · decide
    · rw [List.eq_of_mem_replicate spaces]
      decide

/-- A document that a reader takes, of characters that documents may hold. -/
structure IsWellFormed (text : List Char) : Prop where
  isDocument : (readDocument text).isSome
  characters : ∀ c ∈ text, XmlChar c

end Xml

namespace Atom

open Xml

theorem strays_value (value : String) :
    strays (write (valuePieces value.toList)) = strays value.toList := by
  unfold valuePieces
  split
  · next inner shape =>
    have written : write [.cdata inner] = value.toList := by
      rw [write_singleton, (cdataContent?_eq_some_iff _ _).1 shape]
      rfl
    rw [written]
  · split
    · next empty =>
      rw [List.isEmpty_iff.1 empty]
      rfl
    · rw [write_singleton]
      exact strays_escape value.toList

theorem strays_field {field : String × String} (named : isName field.1) (indent : Indent)
    (depth : Nat) : strays (indentedField indent depth field) = strays field.2.toList := by
  have inside : strays (indentedValue indent depth field.2) = strays field.2.toList := by
    unfold indentedValue
    split
    · next empty =>
      have noValue : field.2 = "" := by simpa using empty
      rw [strays_lineBreak, noValue]
      rfl
    · exact strays_value field.2
  rw [indentedField]
  simp only [strays_append, strays_lineBreak, strays_openTag named, strays_closeTag named, inside,
    List.append_nil, List.nil_append]

theorem strays_fields {fields : List (String × String)} (named : ∀ field ∈ fields, isName field.1)
    (indent : Indent) (depth : Nat) : strays (fields.flatMap (indentedField indent depth)) =
      fields.flatMap fun field => strays field.2.toList := by
  rw [strays_flatMap]
  exact List.flatMap_congr fun field member => strays_field (named field member) indent depth

/-- The stray characters of a document are those of its values, in the same order. -/
theorem strays_writePieces {feed : Feed} (named : ∀ field ∈ writtenFields feed, isName field.1)
    (indent : Indent) : strays (writePieces indent (pieces feed)) =
      (writtenFields feed).flatMap fun field => strays field.2.toList := by
  rw [forall_mem_writtenFields] at named
  have declares : strays (write [.declaration]) = [] := by decide
  have opens : strays (write [.openTag "feed" [("xmlns", nameSpace)]]) = [] := by decide
  have closes : strays (write [.closeTag "feed"]) = [] := strays_closeTag isReadable_feed.1
  have entries : strays (feed.entries.flatMap (indentedEntry indent)) =
      feed.entries.flatMap fun entry => entry.toList.flatMap fun field => strays field.2.toList := by
    rw [strays_flatMap]
    apply List.flatMap_congr
    intro entry member
    have fields := strays_fields (named.2 entry member) indent 2
    have begins := strays_openTag isReadable_entry.1
    have ends := strays_closeTag isReadable_entry.1
    rw [indentedEntry]
    simp only [strays_append, strays_lineBreak, begins, ends, fields, List.append_nil,
      List.nil_append]
  rw [writePieces_pieces, writtenFields, List.flatMap_append, List.flatMap_assoc]
  simp only [strays_append, strays_lineBreak, declares, opens, closes, entries,
    strays_fields named.1, List.append_nil, List.nil_append]

/-- A feed of plain values is written if its names allow it, whatever its values hold, and a reader takes
what is written for a document. All characters that do not belong in a document come from the values, so
it is well-formed just when no value has one. -/
theorem render_isWellFormed_iff (feed : Feed) (plain : IsPlain feed) :
    ((∃ text, render none feed = .ok text) ↔ ∀ name ∈ writtenNames feed, IsXmlName name) ∧
      ∀ text, render none feed = .ok text → (readDocument text.toList).isSome ∧
        strays text.toList = ((writtenFields feed).flatMap fun field => strays field.2.toList) ∧
        (IsWellFormed text.toList ↔
          ∀ field ∈ writtenFields feed, ∀ c ∈ field.2.toList, XmlChar c) := by
  constructor
  · simp only [render_eq_ok_iff, exists_and_left, exists_eq, and_true, isName_iff]
  · rintro text rendered
    obtain ⟨rfl, named⟩ := isName_of_render rendered
    rw [String.toList_ofList]
    have isDocument : (readDocument (write (pieces feed))).isSome := by
      rw [readDocument_pieces named plain.isClosed]
      rfl
    have same : strays (write (pieces feed)) =
        (writtenFields feed).flatMap fun field => strays field.2.toList :=
      strays_writePieces named none
    refine ⟨isDocument, same, ?_⟩
    have clean : (∀ c ∈ write (pieces feed), XmlChar c) ↔
        ∀ field ∈ writtenFields feed, ∀ c ∈ field.2.toList, XmlChar c := by
      simp only [← strays_eq_nil_iff, same, List.flatMap_eq_nil_iff]
    constructor
    · intro wellFormed
      exact clean.1 wellFormed.characters
    · intro valuesClean
      exact ⟨isDocument, clean.2 valuesClean⟩

/-- A feed with a character in a value that no document may hold. -/
def belled : Feed where
  info := .ofList [("title", "a < b")]
  entries := [.ofList [("content", "bell \x07"), ("note", "")]]

theorem render_isWellFormed_belled : IsPlain belled ∧
    ((∃ text, render none belled = .ok text) ↔ ∀ name ∈ writtenNames belled, IsXmlName name) ∧
      ∀ text, render none belled = .ok text → (readDocument text.toList).isSome ∧
        strays text.toList = ((writtenFields belled).flatMap fun field => strays field.2.toList) ∧
        (IsWellFormed text.toList ↔
          ∀ field ∈ writtenFields belled, ∀ c ∈ field.2.toList, XmlChar c) :=
  ⟨by decide, render_isWellFormed_iff belled (by decide)⟩

/-- Not every document has only characters that documents may hold. -/
theorem render_not_isWellFormed : ¬∀ (feed : Feed) (text : String), IsPlain feed →
    render none feed = .ok text → ∀ c ∈ text.toList, XmlChar c := by
  intro clean
  obtain ⟨text, rendered⟩ : ∃ text, render none belled = .ok text := ⟨_, rfl⟩
  have characters := clean belled text (by decide) rendered
  obtain ⟨rfl, named⟩ := isName_of_render rendered
  rw [String.toList_ofList, ← strays_eq_nil_iff] at characters
  have stray := strays_writePieces named none
  rw [characters] at stray
  revert stray
  decide

end Atom

end PageFeed
