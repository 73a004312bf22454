import Mathlib.Data.List.Basic
import PageFeed.Extraction.Format
import PageFeed.Html.Page

/-! The markup of an element and the markup of what is in it. Where a node stands matters for its bare
text alone: right below a script, a style sheet and the like text is written as it is, and everywhere
else it is escaped. What is in an element is written without the element, as if it stood elsewhere. The
two markups of an element therefore agree on what is in it, unless the element asks for text as it is
and has a character to escape right below it. -/

namespace PageFeed

namespace Html.Tree

/-! ## Written nodes -/

/-- The written form of a node. Text is written as it is where `raw` holds. -/
def markupIn (raw : Bool) (tree : Tree) : List Char := tree.markupBefore raw []

section

variable (raw : Bool) (rest : List Char) (id : NodeId) (children : List Tree)

theorem markupBefore_element (name : ElementName) (attrs : List Attr) :
    (node id (.element name attrs) children).markupBefore raw rest =
      if isVoid name then startTag name attrs ++ rest
      else startTag name attrs ++ markupOfAllBefore (isRaw name) (endTag name ++ rest) children :=
  rfl

theorem markupBefore_text (content : String) :
    (node id (.text content) children).markupBefore raw rest =
      (if raw then content.toList else content.toList.flatMap escapeTextChar) ++ rest := rfl

theorem markupBefore_root :
    (node id .root children).markupBefore raw rest = markupOfAllBefore raw rest children := rfl

theorem markupBefore_holder :
    (node id .holder children).markupBefore raw rest = markupOfAllBefore raw rest children := rfl

end

mutual

/-- What follows a node changes nothing in how the node is written. -/
theorem markupBefore_eq (raw : Bool) (rest : List Char) :
    ∀ tree : Tree, tree.markupBefore raw rest = tree.markupIn raw ++ rest
  | node id data children => by
    unfold markupIn
    match data with
    | .element name attrs =>
      rw [markupBefore_element, markupBefore_element]
      split
      · rw [List.append_nil]
      · rw [markupOfAllBefore_eq _ (endTag name ++ rest) children,
          markupOfAllBefore_eq _ (endTag name ++ []) children]
        simp only [List.append_assoc, List.nil_append]
    | .text content => rw [markupBefore_text, markupBefore_text, List.append_nil]
    | .comment content =>
      change _ ++ _ ++ _ ++ rest = _ ++ _ ++ _ ++ [] ++ rest
      rw [List.append_nil]
    | .doctype name =>
      change _ ++ _ ++ '>' :: rest = _ ++ _ ++ ['>'] ++ rest
      rw [List.append_assoc _ ['>'] rest]
      rfl
    | .root =>
      rw [markupBefore_root, markupBefore_root, markupOfAllBefore_eq raw rest children,
        markupOfAllBefore_eq raw [] children, List.append_nil]
    | .holder =>
      rw [markupBefore_holder, markupBefore_holder, markupOfAllBefore_eq raw rest children,
        markupOfAllBefore_eq raw [] children, List.append_nil]

theorem markupOfAllBefore_eq (raw : Bool) (rest : List Char) :
    ∀ trees : List Tree, markupOfAllBefore raw rest trees = trees.flatMap (markupIn raw) ++ rest
  | [] => rfl
  | tree :: later => by
    rw [List.flatMap_cons, List.append_assoc, ← markupOfAllBefore_eq raw rest later]
    exact markupBefore_eq raw (markupOfAllBefore raw rest later) tree

end

theorem innerMarkup_eq (tree : Tree) : tree.innerMarkup = tree.children.flatMap (markupIn false) := by
  rw [innerMarkup, markupOfAllBefore_eq, List.append_nil]

theorem outerMarkup_element {name : ElementName} (hasEnd : isVoid name = false) (id : NodeId)
    (attrs : List Attr) (children : List Tree) :
    (node id (.element name attrs) children).outerMarkup =
      startTag name attrs ++ children.flatMap (markupIn (isRaw name)) ++ endTag name := by
  rw [outerMarkup, markupBefore_element, if_neg (by simp [hasEnd]), markupOfAllBefore_eq,
    List.append_nil, List.append_assoc]

/-! ## Bare text -/

mutual

/-- The text that a node writes outside of elements. -/
def bareText : Tree → List Char
  | node _ data children =>
    match data with
    | .text content => content.toList
    | .root => bareTextOfAll children
    | .holder => bareTextOfAll children
    | _ => []

/-- The text that several nodes write outside of elements. -/
def bareTextOfAll : List Tree → List Char
  | [] => []
  | tree :: later => tree.bareText ++ bareTextOfAll later

end

/-- The characters that are escaped in text. -/
def escapedChars : List Char := ['&', '\u00a0', '<', '>']

theorem escapeTextChar_of_not_mem {c : Char} (plain : c ∉ escapedChars) : escapeTextChar c = [c] := by
  unfold escapeTextChar
  split <;> simp_all [escapedChars]

theorem length_escapeTextChar_of_mem {c : Char} (special : c ∈ escapedChars) :
    1 < (escapeTextChar c).length := by
  simp only [escapedChars, List.mem_cons, List.not_mem_nil, or_false] at special
  rcases special with rfl | rfl | rfl | rfl <;> decide

/-- Two written forms, the second of which has the bare text of the first one escaped. It is never
shorter, and it is as short only when there is nothing to escape; then the two are the same. -/
structure Escapes (bare raw escaped : List Char) : Prop where
  length_le : raw.length ≤ escaped.length
  plain : escaped.length ≤ raw.length → ∀ c ∈ bare, c ∉ escapedChars
  same : (∀ c ∈ bare, c ∉ escapedChars) → raw = escaped

namespace Escapes

variable {bare raw escaped : List Char}

theorem refl (written : List Char) : Escapes [] written written where
  length_le := Nat.le_refl _
  plain _ := by simp
  same _ := rfl

theorem append {bareMore rawMore escapedMore : List Char} (first : Escapes bare raw escaped)
    (second : Escapes bareMore rawMore escapedMore) :
    Escapes (bare ++ bareMore) (raw ++ rawMore) (escaped ++ escapedMore) where
  length_le := by
    simpa only [List.length_append] using Nat.add_le_add first.length_le second.length_le
  plain short := by
    have firstLonger := first.length_le
    have secondLonger := second.length_le
    simp only [List.length_append] at short
    exact List.forall_mem_append.2 ⟨first.plain (by omega), second.plain (by omega)⟩
  same plain := by
    obtain ⟨firstPlain, secondPlain⟩ := List.forall_mem_append.1 plain
    rw [first.same firstPlain, second.same secondPlain]

theorem char (c : Char) : Escapes [c] [c] (escapeTextChar c) := by
  by_cases special : c ∈ escapedChars
  · have longer := length_escapeTextChar_of_mem special
    refine ⟨Nat.le_of_lt longer, fun short => ?_, fun plain => ?_⟩
    · exact absurd longer (Nat.not_lt.2 short)
    · exact absurd special (plain c (List.mem_singleton_self c))
  · rw [escapeTextChar_of_not_mem special]
    exact ⟨Nat.le_refl _, fun _ => by simpa using special, fun _ => rfl⟩

theorem text (content : List Char) : Escapes content content (content.flatMap escapeTextChar) := by
  induction content with
  | nil => exact refl []
  | cons c content ih => exact (char c).append ih

theorem eq_iff (escapes : Escapes bare raw escaped) :
    raw = escaped ↔ ∀ c ∈ bare, c ∉ escapedChars := by
  constructor
  · intro same
    exact escapes.plain (Nat.le_of_eq (congrArg List.length same.symm))
  · exact escapes.same

end Escapes

mutual

/-- Where a node stands matters for its bare text alone. -/
theorem escapes_markupIn :
    ∀ tree : Tree, Escapes tree.bareText (tree.markupIn true) (tree.markupIn false)
  | node id data children => by
    match data with
    | .element name attrs => exact .refl _
    | .text content =>
      unfold markupIn
      rw [markupBefore_text, markupBefore_text, List.append_nil, List.append_nil]
      exact .text content.toList
    | .comment content => exact .refl _
    | .doctype name => exact .refl _
    | .root =>
      unfold markupIn
      rw [markupBefore_root, markupBefore_root, markupOfAllBefore_eq, markupOfAllBefore_eq,
        List.append_nil, List.append_nil]
      exact escapes_flatMap_markupIn children
    | .holder =>
      unfold markupIn
      rw [markupBefore_holder, markupBefore_holder, markupOfAllBefore_eq, markupOfAllBefore_eq,
        List.append_nil, List.append_nil]
      exact escapes_flatMap_markupIn children

theorem escapes_flatMap_markupIn :
    ∀ trees : List Tree, Escapes (bareTextOfAll trees) (trees.flatMap (markupIn true))
      (trees.flatMap (markupIn false))
  | [] => .refl []
  | tree :: later => by
    rw [List.flatMap_cons, List.flatMap_cons]
    exact (escapes_markupIn tree).append (escapes_flatMap_markupIn later)

end

theorem flatMap_markupIn_eq_iff (raw : Bool) (trees : List Tree) :
    trees.flatMap (markupIn raw) = trees.flatMap (markupIn false) ↔
      (raw → ∀ c ∈ bareTextOfAll trees, c ∉ escapedChars) := by
  cases raw with
  | false => simp
  | true => rw [(escapes_flatMap_markupIn trees).eq_iff, imp_iff_right rfl]

end Html.Tree

/-! ## Elements of pages -/

open Html Tree

theorem Html.Document.tree_eq (document : Document) (id : NodeId) :
    document.tree id = .node id (document.data id) (document.tree id).children := by
  unfold Document.tree
  cases document.nodes.size <;> rfl

/-- The markup of an element with an end tag has the markup of its children between the two tags, their
bare text as it is if the element asks for that. The markup of what is in the element has the same with
the bare text escaped. So the first is the second between the two tags exactly when the element does not
ask for text as it is or has no character to escape right below it. -/
theorem outerMarkup_eq_innerMarkup_iff (document : Document) (id : NodeId) {name : ElementName}
    {attrs : List Attr} (isElement : document.data id = .element name attrs)
    (hasEnd : isVoid name = false) :
    let children := (document.tree id).children
    let outer := Content.outerMarkup.take document id
    let inner := Content.innerMarkup.take document id
    outer = String.ofList (startTag name attrs ++ children.flatMap (markupIn (isRaw name)) ++
      endTag name) ∧
    inner = String.ofList (children.flatMap (markupIn false)) ∧
    (outer = String.ofList (startTag name attrs) ++ inner ++ String.ofList (endTag name) ↔
      (isRaw name → ∀ c ∈ bareTextOfAll children, c ∉ ['&', '\u00a0', '<', '>'])) := by
  intro children outer inner
  have outerIs : outer = String.ofList (startTag name attrs ++
      children.flatMap (markupIn (isRaw name)) ++ endTag name) := by
    change String.ofList (document.tree id).outerMarkup = _
    rw [document.tree_eq id, isElement, outerMarkup_element hasEnd]
  have innerIs : inner = String.ofList (children.flatMap (markupIn false)) :=
    congrArg String.ofList (innerMarkup_eq (document.tree id))
  refine ⟨outerIs, innerIs, ?_⟩
  rw [outerIs, innerIs, ← String.ofList_append, ← String.ofList_append, String.ofList_inj,
    List.append_cancel_right_eq, List.append_cancel_left_eq]
  exact flatMap_markupIn_eq_iff (isRaw name) children

/-- A paragraph with a character to escape, and in it a script with one that is not escaped. -/
theorem outerMarkup_paragraph :
    let document := parse "<p title='1'>a > <script>b<c</script>"
    let attrs : List Attr := [⟨.plain "title", "1"⟩]
    document.data 4 = .element (.html "p") attrs ∧ isVoid (.html "p") = false ∧
      Content.outerMarkup.take document 4 = String.ofList (startTag (.html "p") attrs) ++
        Content.innerMarkup.take document 4 ++ String.ofList (endTag (.html "p")) := by
  intro document attrs
  have isElement : document.data 4 = .element (.html "p") attrs := by decide +kernel
  have markups := outerMarkup_eq_innerMarkup_iff document 4 isElement (by decide)
  exact ⟨isElement, by decide, markups.2.2.2 (by decide)⟩

/-- The markup of a script is not always what is in it between its two tags. -/
theorem outerMarkup_not_around_innerMarkup :
    ¬∀ (source : String) (id : NodeId) (name : ElementName) (attrs : List Attr),
      (parse source).data id = .element name attrs → isVoid name = false →
        Content.outerMarkup.take (parse source) id = String.ofList (startTag name attrs) ++
          Content.innerMarkup.take (parse source) id ++ String.ofList (endTag name) := by
  intro around
  have script := around "<script>a<b</script>" 3 (.html "script") [] (by decide +kernel) (by decide)
  exact absurd script (by decide +kernel)

end PageFeed
