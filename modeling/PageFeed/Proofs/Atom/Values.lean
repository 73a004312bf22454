import PageFeed.Extraction.Format
import PageFeed.Proofs.Atom.Indentation
import PageFeed.Proofs.Atom.Injectivity

/-! Values between the tags of their fields. A value is put into a CDATA section by its rule, and the
writer knows it again by the two marks alone, which cannot overlap. So what the rule has marked is written
as it is and never marked twice, whatever is between the marks, and every other value is escaped: none of
its characters is left that could begin or end a tag, and a reader gets all of them back. -/

namespace PageFeed

namespace Xml

/-! ## Escaped text -/

theorem length_le_escape (text : List Char) : text.length ≤ (escape text).length := by
  induction text with
  | nil => exact Nat.le_refl 0
  | cons c rest ih =>
    have some : 0 < (escapeChar c).length := by
      unfold escapeChar
      split <;> exact Nat.succ_pos _
    have written : escape (c :: rest) = escapeChar c ++ escape rest := rfl
    rw [written, List.length_append, List.length_cons]
    omega

theorem escapeChar_of_not_mem {c : Char} (plain : c ∉ "&<>'\"".toList) : escapeChar c = [c] := by
  unfold escapeChar
  split
  · exact absurd (by decide) plain
  · exact absurd (by decide) plain
  · exact absurd (by decide) plain
  · exact absurd (by decide) plain
  · exact absurd (by decide) plain
  · rfl

theorem exists_escapeChar_of_mem {c : Char} (special : c ∈ "&<>'\"".toList) :
    ∃ more, escapeChar c = '&' :: more ∧ 0 < more.length := by
  simp only [String.reduceToList, List.mem_cons, List.not_mem_nil, or_false] at special
  rcases special with rfl | rfl | rfl | rfl | rfl <;> exact ⟨_, rfl, by decide⟩

/-- Escaping changes a text just when it has one of the five characters. -/
theorem escape_eq_self_iff (text : List Char) :
    escape text = text ↔ ∀ c ∈ text, c ∉ "&<>'\"".toList := by
  induction text with
  | nil => simp [escape]
  | cons c rest ih =>
    have written : escape (c :: rest) = escapeChar c ++ escape rest := rfl
    rw [written, List.forall_mem_cons]
    by_cases special : c ∈ "&<>'\"".toList
    · -- what is written instead is longer, and the rest does not get shorter
      obtain ⟨more, entity, longer⟩ := exists_escapeChar_of_mem special
      constructor
      · intro same
        have sizes := congrArg List.length same
        have later := length_le_escape rest
        rw [entity, List.length_append, List.length_cons, List.length_cons] at sizes
        omega
      · intro plain
        exact absurd special plain.1
    · rw [escapeChar_of_not_mem special, List.singleton_append, List.cons.injEq, ih]
      exact ⟨fun same => ⟨special, same.2⟩, fun plain => ⟨rfl, plain.2⟩⟩

/-- An element with something between its tags. -/
def element (name : String) (inside : List Char) : List Char :=
  '<' :: name.toList ++ '>' :: inside ++ '<' :: '/' :: name.toList ++ ['>']

theorem element_eq (name : String) (inside : List Char) :
    element name inside = write [.openTag name []] ++ (inside ++ write [.closeTag name]) := by
  have opens : write [.openTag name []] = '<' :: name.toList ++ [] ++ ['>'] ++ [] := rfl
  have closes : write [.closeTag name] = '<' :: '/' :: name.toList ++ ['>'] ++ [] := rfl
  rw [element, opens, closes]
  simp only [List.append_assoc, List.cons_append, List.nil_append, List.append_nil]

end Xml

namespace Atom

open Xml

/-! ## Values -/

/-- What is written for a value. -/
def valueText (value : String) : List Char := write (valuePieces value.toList)

instance (value : String) : Decidable (IsSection value) :=
  decidable_of_iff ((cdataContent? value.toList).isSome = true) (by
    simp only [Option.isSome_iff_exists, cdataContent?_eq_some_iff, IsSection])

/-- The marks have no character in common at their ends, so both of them fit into a value that begins
with the one and ends with the other. -/
theorem isSection_iff (value : String) :
    IsSection value ↔ cdataOpen <+: value.toList ∧ cdataClose <:+ value.toList := by
  constructor
  · rintro ⟨inner, marked⟩
    rw [marked, List.append_assoc]
    exact ⟨List.prefix_append _ _, (List.suffix_append _ _).trans (List.suffix_append _ _)⟩
  · rintro ⟨⟨content, begins⟩, ends⟩
    rw [← begins] at ends
    obtain ⟨inner, rfl⟩ := suffix_of_cdataOpen_append ends
    exact ⟨inner, by rw [← begins, List.append_assoc]⟩

theorem toList_cdataSection (content : String) :
    (cdataSection content).toList = cdataOpen ++ content.toList ++ cdataClose := by
  rw [cdataSection, String.toList_append, String.toList_append]
  rfl

theorem valueText_of_isSection {value : String} (marked : IsSection value) :
    valueText value = value.toList := by
  obtain ⟨inner, parts⟩ := marked
  have found := (cdataContent?_eq_some_iff value.toList inner).2 parts
  rw [valueText, valuePieces, found, write_singleton, parts]
  rfl

theorem valueText_of_not_isSection {value : String} (unmarked : ¬IsSection value) :
    valueText value = escape value.toList := by
  rw [not_isSection_iff] at unmarked
  rw [valueText, valuePieces, unmarked]
  by_cases empty : value.toList.isEmpty
  · rw [if_pos empty, List.isEmpty_iff.1 empty]
    rfl
  · rw [if_neg empty, write_singleton]
    rfl

theorem valueText_eq_self_iff (value : String) :
    valueText value = value.toList ↔
      IsSection value ∨ ∀ c ∈ value.toList, c ∉ "&<>'\"".toList := by
  by_cases marked : IsSection value
  · simp only [valueText_of_isSection marked, marked, true_or]
  · rw [valueText_of_not_isSection marked, escape_eq_self_iff]
    simp only [marked, false_or]

/-! ## Documents -/

/-- The element of a field. What stands between its tags in place of an empty value is given. -/
def fieldText (indent : Indent) (blank : Nat → List Char) (depth : Nat) (field : String × String) :
    List Char :=
  lineBreak indent depth ++
    element field.1 (if field.2 = "" then blank depth else valueText field.2)

def entryText (indent : Indent) (blank : Nat → List Char) (entry : Entry) : List Char :=
  lineBreak indent 1 ++
    element "entry" (entry.toList.flatMap (fieldText indent blank 2) ++ lineBreak indent 1)

def documentText (indent : Indent) (blank : Nat → List Char) (feed : Feed) : List Char :=
  "<?xml version=\"1.0\" encoding=\"utf-8\"?>".toList ++ lineBreak indent 0 ++
    "<feed xmlns=\"http://www.w3.org/2005/Atom\">".toList ++
      feed.info.toList.flatMap (fieldText indent blank 1) ++
        feed.entries.flatMap (entryText indent blank) ++
          lineBreak indent 0 ++ "</feed>".toList

theorem indentedField_eq (indent : Indent) (depth : Nat) (field : String × String) :
    indentedField indent depth field = fieldText indent (lineBreak indent) depth field := by
  rw [indentedField, fieldText, element_eq, indentedValue, List.append_assoc]
  by_cases empty : field.2 = ""
  · rw [if_pos (by simpa using empty), if_pos empty]
  · rw [if_neg (by simpa using empty), if_neg empty]
    rfl

theorem indentedEntry_eq (indent : Indent) (entry : Entry) :
    indentedEntry indent entry = entryText indent (lineBreak indent) entry := by
  have fields : indentedField indent 2 = fieldText indent (lineBreak indent) 2 :=
    funext (indentedField_eq indent 2)
  rw [indentedEntry, entryText, element_eq, fields]
  simp only [List.append_assoc]

theorem writePieces_eq_documentText (indent : Indent) (feed : Feed) :
    writePieces indent (pieces feed) = documentText indent (lineBreak indent) feed := by
  have fields : indentedField indent 1 = fieldText indent (lineBreak indent) 1 :=
    funext (indentedField_eq indent 1)
  have entries : indentedEntry indent = entryText indent (lineBreak indent) :=
    funext (indentedEntry_eq indent)
  have declares : write [.declaration] = "<?xml version=\"1.0\" encoding=\"utf-8\"?>".toList :=
    write_singleton .declaration
  have opens : write [.openTag "feed" [("xmlns", nameSpace)]] =
      "<feed xmlns=\"http://www.w3.org/2005/Atom\">".toList := by
    decide
  have closes : write [.closeTag "feed"] = "</feed>".toList := by
    decide
  rw [writePieces_pieces, fields, entries, declares, opens, closes]
  delta documentText
  simp only [List.append_assoc]

/-- Every document is its fields with their values between the tags; what an indentation puts between
those of an empty value is left open. A value that a rule has put into a section stands there as it is,
and so does any other value that begins and ends like one; all others are escaped. The escaped form is the
value itself just when the value has none of the five characters. -/
theorem written_values :
    (∀ indent : Indent, ∃ blank : Nat → List Char, (indent = none → ∀ depth, blank depth = []) ∧
      ∀ (feed : Feed) (text : String), render indent feed = .ok text ↔
        (∀ name ∈ writtenNames feed, isName name) ∧
          text.toList = documentText indent blank feed) ∧
    (∀ (dates : Moment.Reader) (content : String),
      valueText (ValueType.coerce dates content .cdata) =
        "<![CDATA[".toList ++ content.toList ++ "]]>".toList) ∧
    ∀ value : String,
      (IsSection value ↔ "<![CDATA[".toList <+: value.toList ∧ "]]>".toList <:+ value.toList) ∧
      (IsSection value → valueText value = value.toList) ∧
      (¬IsSection value → valueText value = escape value.toList ∧
        '<' ∉ valueText value ∧ '>' ∉ valueText value ∧
        decode (valueText value) = some value.toList) ∧
      (valueText value = value.toList ↔
        IsSection value ∨ ∀ c ∈ value.toList, c ∉ "&<>'\"".toList) := by
  refine ⟨fun indent => ⟨lineBreak indent, ?_, fun feed text => ?_⟩, fun dates content => ?_,
    fun value => ?_⟩
  · rintro rfl depth
    rfl
  · rw [render_eq_ok_iff, writePieces_eq_documentText, ← String.toList_inj, String.toList_ofList]
  · have marked := toList_cdataSection content
    exact (valueText_of_isSection ⟨content.toList, marked⟩).trans marked
  · refine ⟨isSection_iff value, valueText_of_isSection, fun unmarked => ?_,
      valueText_eq_self_iff value⟩
    rw [valueText_of_not_isSection unmarked]
    have safe := mem_escape value.toList
    exact ⟨rfl, fun member => (safe _ member).1 rfl, fun member => (safe _ member).2.1 rfl,
      decode_escape value.toList⟩

/-- A section within a section keeps its marks, and two marks that share no brackets make none. -/
theorem written_values_nested :
    IsSection "<![CDATA[<![CDATA[<b>]]>]]>" ∧
      valueText "<![CDATA[<![CDATA[<b>]]>]]>" = "<![CDATA[<![CDATA[<b>]]>]]>".toList ∧
      ¬IsSection "<![CDATA[]>" ∧ valueText "<![CDATA[]>" = "&lt;![CDATA[]&gt;".toList := by
  have marked : IsSection "<![CDATA[<![CDATA[<b>]]>]]>" := by decide
  have unmarked : ¬IsSection "<![CDATA[]>" := by decide
  have raw := (written_values.2.2 "<![CDATA[<![CDATA[<b>]]>]]>").2.1 marked
  have escaped := ((written_values.2.2 "<![CDATA[]>").2.2.1 unmarked).1
  exact ⟨marked, raw, unmarked, escaped.trans (by decide)⟩

/-- A feed with one value. -/
def single (value : String) : Feed where
  info := .ofList [("id", value)]
  entries := []

/-- Sections are not all that is written as it is: so is any text without special characters. And with an
indentation not even the escaped form of an empty text stands alone between the tags. -/
theorem render_single_not_only_sections :
    (¬∀ value text : String, render none (single value) = .ok text →
      (element "id" value.toList <:+: text.toList ↔ IsSection value)) ∧
    ¬∀ value text : String, render (some 2) (single value) = .ok text → ¬IsSection value →
      element "id" (escape value.toList) <:+: text.toList := by
  constructor
  · intro only
    obtain ⟨text, rendered⟩ : ∃ text, render none (single "abc") = .ok text := ⟨_, rfl⟩
    have marked := (only "abc" text rendered).1
    cases rendered
    revert marked
    decide +kernel
  · intro escaped
    obtain ⟨text, rendered⟩ : ∃ text, render (some 2) (single "") = .ok text := ⟨_, rfl⟩
    have alone := escaped "" text rendered (by decide)
    cases rendered
    revert alone
    decide +kernel

end Atom

end PageFeed
