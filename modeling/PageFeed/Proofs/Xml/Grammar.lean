import Mathlib.Data.List.Basic
import PageFeed.Xml.Name

/-! Characters and names as the grammar of XML has them. A name is a character that may begin a name,
and behind it any characters that a name may hold. -/

namespace PageFeed.Xml

open Text (Spans)

/-- A character of an interval of code points. -/
def Between (low high : Nat) (c : Char) : Prop := low ≤ c.toNat ∧ c.toNat ≤ high

instance (low high : Nat) (c : Char) : Decidable (Between low high c) :=
  inferInstanceAs (Decidable (_ ∧ _))

/-- The production `Char`: the characters that may stand in a document. -/
def XmlChar (c : Char) : Prop :=
  c = '\t' ∨ c = '\n' ∨ c = '\r' ∨ Between 0x20 0xd7ff c ∨ Between 0xe000 0xfffd c ∨
    Between 0x10000 0x10ffff c

instance (c : Char) : Decidable (XmlChar c) := inferInstanceAs (Decidable (_ ∨ _))

/-- The production `NameStartChar`. -/
def NameStartChar (c : Char) : Prop :=
  c = ':' ∨ Between 0x41 0x5a c ∨ c = '_' ∨ Between 0x61 0x7a c ∨ Between 0xc0 0xd6 c ∨
    Between 0xd8 0xf6 c ∨ Between 0xf8 0x2ff c ∨ Between 0x370 0x37d c ∨ Between 0x37f 0x1fff c ∨
    Between 0x200c 0x200d c ∨ Between 0x2070 0x218f c ∨ Between 0x2c00 0x2fef c ∨
    Between 0x3001 0xd7ff c ∨ Between 0xf900 0xfdcf c ∨ Between 0xfdf0 0xfffd c ∨
    Between 0x10000 0xeffff c

/-- The production `NameChar`. -/
def NameChar (c : Char) : Prop :=
  NameStartChar c ∨ c = '-' ∨ c = '.' ∨ Between 0x30 0x39 c ∨ Between 0xb7 0xb7 c ∨
    Between 0x300 0x36f c ∨ Between 0x203f 0x2040 c

/-- The production `Name`. -/
def IsXmlName (name : String) : Prop :=
  ∃ first rest, name.toList = first :: rest ∧ NameStartChar first ∧ ∀ c ∈ rest, NameChar c

/-- A single character is an interval of its own. -/
theorem eq_iff_between (c d : Char) : c = d ↔ Between d.toNat d.toNat c := by
  rw [← Char.toNat_inj, Between]
  omega

/-- A document may hold every character of a name. -/
theorem NameChar.xmlChar {c : Char} (inName : NameChar c) : XmlChar c := by
  have visible : Between 0x20 0xd7ff c ∨ Between 0xe000 0xfffd c ∨ Between 0x10000 0x10ffff c := by
    simp only [NameChar, NameStartChar, eq_iff_between c, Between, Char.reduceToNat] at inName ⊢
    omega
  exact .inr (.inr (.inr visible))

theorem isNameStart_iff (c : Char) : isNameStart c ↔ NameStartChar c := by
  rw [isNameStart, Spans.has_iff, NameStartChar, eq_iff_between c ':', eq_iff_between c '_']
  simp only [nameStartSpans, List.exists_mem_cons_iff, List.not_mem_nil, false_and, exists_false,
    or_false, Between]
  exact or_congr_right or_left_comm

theorem isNamePart_iff (c : Char) : isNamePart c ↔ NameChar c := by
  rw [isNamePart, Bool.or_eq_true, isNameStart_iff, Spans.has_iff, NameChar, eq_iff_between c '-',
    eq_iff_between c '.']
  simp only [nameMoreSpans, List.exists_mem_cons_iff, List.not_mem_nil, false_and, exists_false,
    or_false, Between]
  rfl

/-- The check of names takes just the names of the grammar. -/
theorem isName_iff (name : String) : isName name ↔ IsXmlName name := by
  unfold isName IsXmlName
  cases name.toList with
  | nil => simp
  | cons first rest => simp [isNameStart_iff, isNamePart_iff]

end PageFeed.Xml
