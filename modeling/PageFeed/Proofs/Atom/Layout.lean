import PageFeed.Atom
import PageFeed.Proofs.Xml.ReadBack

/-! The Atom document of a feed, read back. Whatever the values hold, a reader finds the root element
with one element for each value of the feed and one for each entry, and in each of them the value
itself, or what is inside of it when it is a CDATA section. -/

namespace PageFeed.Atom

open Xml

/-- What a reader finds in the element of a value: the inside of a CDATA section, and any other value
as it is. -/
def readerText (value : List Char) : List Char :=
  if cdataOpen <+: value ∧ cdataClose <:+ value.drop cdataOpen.length then
    (value.drop cdataOpen.length).take (value.length - cdataOpen.length - cdataClose.length)
  else value

/-- The element of a field. -/
def fieldNode (field : String × String) : Node :=
  .element field.1 [] (textNodes (readerText field.2.toList))

/-- The element of an entry. -/
def entryNode (entry : Entry) : Node := .element "entry" [] (entry.toList.map fieldNode)

/-- The document that a reader finds: the fields of the feed, and behind them its entries. -/
def layout (feed : Feed) : Document where
  declaration := [("version", "1.0"), ("encoding", "utf-8")]
  root := .element "feed" [("xmlns", "http://www.w3.org/2005/Atom")]
    (feed.info.toList.map fieldNode ++ feed.entries.map entryNode)

/-- All fields in the order in which they are written. -/
def writtenFields (feed : Feed) : List (String × String) :=
  feed.info.toList ++ feed.entries.flatMap Fields.toList

/-- A value is no CDATA section that holds its own closing mark. -/
def IsClosed (value : String) : Prop :=
  ∀ inner, value.toList = cdataOpen ++ inner ++ cdataClose → ¬cdataClose <:+: inner

theorem cdataContent?_eq_some_iff (value inner : List Char) :
    cdataContent? value = some inner ↔ value = cdataOpen ++ inner ++ cdataClose := by
  simp only [cdataContent?, Option.bind_eq_some_iff, List.isPrefixOf?_eq_some_iff_append_eq,
    List.isSuffixOf?_eq_some_iff_append_eq]
  constructor
  · rintro ⟨rest, rfl, rfl⟩
    rw [List.append_assoc]
  · rintro rfl
    exact ⟨inner ++ cdataClose, by rw [List.append_assoc], rfl⟩

theorem isClosed_iff (value : String) :
    IsClosed value ↔
      ∀ inner, cdataContent? value.toList = some inner → ¬cdataClose <:+: inner := by
  simp only [IsClosed, cdataContent?_eq_some_iff]

instance (value : String) : Decidable (IsClosed value) :=
  decidable_of_iff _ (isClosed_iff value).symm

/-- What a reader finds is what is written raw, or else what is escaped. -/
theorem readerText_eq (value : List Char) : readerText value = (cdataContent? value).getD value := by
  unfold readerText
  split
  · next marked =>
    obtain ⟨⟨rest, rfl⟩, closed⟩ := marked
    rw [List.drop_left] at closed ⊢
    obtain ⟨inner, rfl⟩ := closed
    have found := (cdataContent?_eq_some_iff (cdataOpen ++ (inner ++ cdataClose)) inner).2
      (List.append_assoc ..).symm
    rw [found, Option.getD_some]
    have count : (cdataOpen ++ (inner ++ cdataClose)).length - cdataOpen.length -
        cdataClose.length = inner.length := by
      simp
    rw [count, List.take_left]
  · next unmarked =>
    cases found : cdataContent? value with
    | none => rfl
    | some inner =>
      have parts := (cdataContent?_eq_some_iff value inner).1 found
      refine absurd ?_ unmarked
      rw [parts, List.append_assoc, List.drop_left]
      exact ⟨List.prefix_append _ _, List.suffix_append _ _⟩

theorem reads_field {field : String × String} (named : isName field.1) (closed : IsClosed field.2) :
    Reads (fieldPieces field) := by
  have opens : Reads [.openTag field.1 []] := reads_markup (isReadable_openTag named) (by simp)
  have closes : Reads [.closeTag field.1] := reads_markup named (by simp)
  have value : Reads (valuePieces field.2.toList ++ [.closeTag field.1]) := by
    unfold valuePieces
    split
    · next content found =>
      have readable : (Piece.cdata content).IsReadable :=
        closed content ((cdataContent?_eq_some_iff _ _).1 found)
      exact (reads_markup readable (by simp)).append closes
    · split
      · exact closes
      · next more => exact reads_text (by simpa using more) named (by simp)
  exact opens.append value

theorem builds_field (field : String × String) :
    Builds ((fieldPieces field).map Piece.token) [fieldNode field] := by
  have tokens : (fieldPieces field).map Piece.token = .startTag field.1 [] ::
      (valuePieces field.2.toList).map Piece.token ++ [.endTag field.1] := by
    simp [fieldPieces, Piece.token]
  rw [tokens]
  apply builds_element
  intro opened inside
  rw [readerText_eq]
  unfold valuePieces
  cases cdataContent? field.2.toList with
  | some content =>
    change Reading.take ⟨[], opened⟩ (.characters content) >>= pure = _
    rw [take_characters content inside]
    rfl
  | none =>
    cases text : field.2.toList with
    | nil => rfl
    | cons c rest =>
      change Reading.take ⟨[], opened⟩ (.characters (c :: rest)) >>= pure = _
      rw [take_characters (c :: rest) inside]
      rfl

theorem reads_fields {fields : Fields String} (named : ∀ field ∈ fields.toList, isName field.1)
    (closed : ∀ field ∈ fields.toList, IsClosed field.2) : Reads (fieldsPieces fields) :=
  reads_flatMap fun field member => reads_field (named field member) (closed field member)

theorem builds_fields (fields : Fields String) :
    Builds ((fieldsPieces fields).map Piece.token) (fields.toList.map fieldNode) := by
  rw [fieldsPieces, List.map_flatMap]
  exact builds_flatMap fun field _ => builds_field field

theorem reads_entry {entry : Entry} (named : ∀ field ∈ entry.toList, isName field.1)
    (closed : ∀ field ∈ entry.toList, IsClosed field.2) : Reads (entryPieces entry) := by
  have opens : Reads [.openTag "entry" []] :=
    reads_markup (isReadable_openTag (by decide)) (by simp)
  have closes : Reads [.closeTag "entry"] :=
    reads_markup (by decide : isName "entry") (by simp)
  exact opens.append ((reads_fields named closed).append closes)

theorem builds_entry (entry : Entry) :
    Builds ((entryPieces entry).map Piece.token) [entryNode entry] := by
  have tokens : (entryPieces entry).map Piece.token = .startTag "entry" [] ::
      (fieldsPieces entry).map Piece.token ++ [.endTag "entry"] := by
    simp [entryPieces, Piece.token]
  rw [tokens]
  apply builds_element
  intro opened _
  rw [builds_fields entry, List.append_nil]

/-- Every piece of a document is read back as its token. -/
theorem tokens_pieces {feed : Feed} (named : ∀ field ∈ writtenFields feed, isName field.1)
    (closed : ∀ field ∈ writtenFields feed, IsClosed field.2) :
    tokens (write (pieces feed)) = some ((pieces feed).map Piece.token) := by
  have infoNamed (field) (member : field ∈ feed.info.toList) : field ∈ writtenFields feed :=
    List.mem_append_left _ member
  have entryNamed (entry) (among : entry ∈ feed.entries) (field) (member : field ∈ entry.toList) :
      field ∈ writtenFields feed :=
    List.mem_append_right _ (List.mem_flatMap.2 ⟨entry, among, member⟩)
  have declares : Reads [.declaration] := reads_markup trivial (by simp)
  have opens : Reads [.openTag "feed" [("xmlns", nameSpace)]] :=
    reads_markup ⟨by decide, by decide, by decide⟩ (by simp)
  have info : Reads (fieldsPieces feed.info) :=
    reads_fields (fun field member => named field (infoNamed field member))
      (fun field member => closed field (infoNamed field member))
  have entries : Reads (feed.entries.flatMap entryPieces) :=
    reads_flatMap fun entry among =>
      reads_entry (fun field member => named field (entryNamed entry among field member))
        (fun field member => closed field (entryNamed entry among field member))
  have closes : Reads [.closeTag "feed"] := reads_markup (by decide : isName "feed") (by simp)
  have document : pieces feed = [.declaration] ++ [.openTag "feed" [("xmlns", nameSpace)]] ++
      fieldsPieces feed.info ++ feed.entries.flatMap entryPieces ++ [.closeTag "feed"] := rfl
  have read := ((((declares.append opens).append info).append entries).append closes) []
  rw [← document, List.append_nil] at read
  rw [read, tokens]
  simp

theorem readDocument_pieces {feed : Feed} (named : ∀ field ∈ writtenFields feed, isName field.1)
    (closed : ∀ field ∈ writtenFields feed, IsClosed field.2) :
    readDocument (write (pieces feed)) = some (layout feed) := by
  have inside := (builds_fields feed.info).append
    (builds_flatMap fun entry (_ : entry ∈ feed.entries) => builds_entry entry)
  have root := builds_element "feed" [("xmlns", nameSpace)] fun opened _ =>
    (inside ⟨[], opened⟩).trans (by rw [List.append_nil])
  have document : (pieces feed).map Piece.token =
      .declaration [("version", "1.0"), ("encoding", "utf-8")] ::
        (.startTag "feed" [("xmlns", nameSpace)] :: ((fieldsPieces feed.info).map Piece.token ++
          feed.entries.flatMap fun entry => (entryPieces entry).map Piece.token) ++
            [.endTag "feed"]) := by
    simp [pieces, Piece.token, List.map_flatMap]
  exact readDocument_of_builds ((tokens_pieces named closed).trans (congrArg some document)) root

theorem writtenNames_eq (feed : Feed) : writtenNames feed = (writtenFields feed).map Prod.fst := by
  simp only [writtenNames, writtenFields, List.map_append, List.map_flatMap]
  rfl

theorem isName_of_render {indent : Indent} {feed : Feed} {text : String}
    (rendered : render indent feed = .ok text) :
    text = String.ofList (writePieces indent (pieces feed)) ∧
      ∀ field ∈ writtenFields feed, isName field.1 := by
  unfold render at rendered
  split at rendered
  · cases rendered
  · next noFault =>
    cases rendered
    refine ⟨rfl, fun field member => ?_⟩
    have named := List.find?_eq_none.1 noFault field.1
      (writtenNames_eq feed ▸ List.mem_map_of_mem member)
    simpa using named

theorem forall_isName_iff (feed : Feed) :
    (∀ name ∈ writtenNames feed, isName name) ↔ ∀ field ∈ writtenFields feed, isName field.1 := by
  rw [writtenNames_eq, List.forall_mem_map]

theorem render_eq_ok_iff {indent : Indent} {feed : Feed} {text : String} :
    render indent feed = .ok text ↔ (∀ name ∈ writtenNames feed, isName name) ∧
      text = String.ofList (writePieces indent (pieces feed)) := by
  constructor
  · intro rendered
    obtain ⟨same, named⟩ := isName_of_render rendered
    exact ⟨(forall_isName_iff feed).2 named, same⟩
  · rintro ⟨named, rfl⟩
    have noFault : (writtenNames feed).find? (fun name => !isName name) = none := by
      rw [List.find?_eq_none]
      intro name member
      simp [named name member]
    rw [render, noFault]

/-- A feed whose names are names and whose sections end where their values do has a document, and a
reader finds in it what the feed holds. -/
theorem readDocument_render (feed : Feed) (named : ∀ name ∈ writtenNames feed, isName name)
    (closed : ∀ field ∈ writtenFields feed, IsClosed field.2) :
    ∃ text, render none feed = .ok text ∧ readDocument text.toList = some (layout feed) := by
  have fieldNamed : ∀ field ∈ writtenFields feed, isName field.1 := by
    intro field member
    apply named
    rw [writtenNames_eq]
    exact List.mem_map_of_mem member
  have noFault : (writtenNames feed).find? (fun name => !isName name) = none := by
    rw [List.find?_eq_none]
    intro name member
    simp [named name member]
  refine ⟨String.ofList (write (pieces feed)), ?_, ?_⟩
  · rw [render, noFault]
    rfl
  · rw [String.toList_ofList]
    exact readDocument_pieces fieldNamed closed

/-- A feed with values that hold markup, half a section, and a section that ends in a bracket. -/
def menu : Feed where
  info := .ofList [("id", ""), ("title", "a < b & \"]]>\"")]
  entries := [.ofList [("content", "<![CDATA[<p>Hot</p>]]]>"), ("note", "<![CDATA[]>")], ∅]

theorem readDocument_render_menu :
    (∀ name ∈ writtenNames menu, isName name) ∧ (∀ field ∈ writtenFields menu, IsClosed field.2) ∧
      ∃ text, render none menu = .ok text ∧ readDocument text.toList = some (layout menu) :=
  ⟨by decide, by decide, readDocument_render menu (by decide) (by decide)⟩

end PageFeed.Atom
