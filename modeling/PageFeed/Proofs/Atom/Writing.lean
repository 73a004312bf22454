import PageFeed.Extraction.Extractor
import PageFeed.Proofs.Atom.Indentation
import PageFeed.Proofs.Fields.Traversal
import PageFeed.Proofs.Text.Utf8
import PageFeed.Proofs.Xml.Grammar

/-! Atom documents put into a buffer of bytes, piece after piece. Each field is checked right before its
element is put, so a name that is none stops everything behind it, and what was put before is dropped.
The outcome is that of the whole document at once: the first name in the way, or else the document,
whose bytes are always a text. -/

namespace PageFeed

namespace Atom

open Xml

/-- A document as far as it is written: its bytes, and where the next piece stands. -/
structure Writer where
  bytes : ByteArray := .empty
  depth : Nat := 0
  breaks : Bool := false

namespace Writer

def put (indent : Indent) (writer : Writer) (piece : Piece) : Writer where
  bytes := writer.bytes ++ (String.ofList
    ((if writer.breaks && !piece.isData then lineBreak indent (piece.standsAt writer.depth) else []) ++
      piece.write)).toUTF8
  depth := piece.leaves writer.depth
  breaks := !piece.isData

def putAll (indent : Indent) (pieces : List Piece) (writer : Writer) : Writer :=
  pieces.foldl (put indent) writer

def putField (indent : Indent) (writer : Writer) (field : String × String) :
    Except RenderFault Writer :=
  if isName field.1 then .ok (writer.putAll indent (fieldPieces field))
  else .error (.invalidName field.1)

def putFields (indent : Indent) (fields : Fields String) (writer : Writer) :
    Except RenderFault Writer :=
  fields.toList.foldlM (putField indent) writer

def putEntry (indent : Indent) (writer : Writer) (entry : Entry) : Except RenderFault Writer := do
  let writer ← putFields indent entry (writer.put indent (.openTag "entry" []))
  return writer.put indent (.closeTag "entry")

def putFeed (indent : Indent) (feed : Feed) (writer : Writer) : Except RenderFault Writer := do
  let writer ← putFields indent feed.info
    (writer.putAll indent [.declaration, .openTag "feed" [("xmlns", nameSpace)]])
  let writer ← feed.entries.foldlM (putEntry indent) writer
  return writer.put indent (.closeTag "feed")

def finish (writer : Writer) : Except RenderFault String :=
  match String.fromUTF8? writer.bytes with
  | some text => .ok text
  | none => .error (.other "invalid utf-8 sequence")

end Writer

/-- Writes a document one piece at a time. -/
def produce (indent : Indent) (feed : Feed) : Except RenderFault String := do
  let writer ← Writer.putFeed indent feed {}
  writer.finish

namespace Writer

/-! ## Loops -/

/-- A part of the writing that stops at the first of some names that is not allowed, and puts some
pieces if there is none. -/
def Puts (indent : Indent) (act : Writer → Except RenderFault Writer) (names : List String)
    (pieces : List Piece) : Prop :=
  ∀ writer, act writer = match names.find? fun name => !isName name with
    | some name => .error (.invalidName name)
    | none => .ok (writer.putAll indent pieces)

theorem puts_pieces (indent : Indent) (pieces : List Piece) :
    Puts indent (fun writer => .ok (writer.putAll indent pieces)) [] pieces :=
  fun _ => rfl

theorem Puts.bind {indent : Indent} {act next : Writer → Except RenderFault Writer}
    {names later : List String} {pieces more : List Piece} (puts : Puts indent act names pieces)
    (putsMore : Puts indent next later more) :
    Puts indent (fun writer => act writer >>= next) (names ++ later) (pieces ++ more) := by
  intro writer
  change (act writer).bind next = _
  rw [puts, List.find?_append]
  cases names.find? fun name => !isName name with
  | some name => rfl
  | none =>
    -- all names of the first part are allowed, so the second part decides
    change next (writer.putAll indent pieces) = _
    rw [putsMore, Option.none_or]
    simp only [putAll, List.foldl_append]

theorem puts_foldlM {α : Type} {indent : Indent} {act : Writer → α → Except RenderFault Writer}
    {names : α → List String} {pieces : α → List Piece}
    (puts : ∀ item, Puts indent (act · item) (names item) (pieces item)) (items : List α) :
    Puts indent (fun writer => items.foldlM act writer) (items.flatMap names)
      (items.flatMap pieces) := by
  induction items with
  | nil => exact puts_pieces indent []
  | cons item items ih =>
    have both := (puts item).bind ih
    simpa only [List.foldlM_cons, List.flatMap_cons] using both

theorem puts_field (indent : Indent) (field : String × String) :
    Puts indent (putField indent · field) [field.1] (fieldPieces field) := by
  intro writer
  by_cases named : isName field.1
  · simp [putField, named]
  · simp [putField, named]

theorem puts_fields (indent : Indent) (fields : Fields String) :
    Puts indent (putFields indent fields) fields.names (fieldsPieces fields) := by
  have loop := puts_foldlM (puts_field indent) fields.toList
  have names : fields.names = fields.toList.flatMap fun field => [field.1] := List.map_eq_flatMap
  rw [names]
  exact loop

theorem puts_entry (indent : Indent) (entry : Entry) :
    Puts indent (putEntry indent · entry) entry.names (entryPieces entry) := by
  have whole := (puts_pieces indent [.openTag "entry" []]).bind
    ((puts_fields indent entry).bind (puts_pieces indent [.closeTag "entry"]))
  rw [List.append_nil, List.nil_append] at whole
  exact whole

theorem puts_feed (indent : Indent) (feed : Feed) :
    Puts indent (putFeed indent feed) (writtenNames feed) (pieces feed) := by
  have whole := (puts_pieces indent [.declaration, .openTag "feed" [("xmlns", nameSpace)]]).bind
    ((puts_fields indent feed.info).bind
      ((puts_foldlM (puts_entry indent) feed.entries).bind
        (puts_pieces indent [.closeTag "feed"])))
  have parts : [.declaration, .openTag "feed" [("xmlns", nameSpace)]] ++ (fieldsPieces feed.info ++
      (feed.entries.flatMap entryPieces ++ [.closeTag "feed"])) = pieces feed := by
    simp [pieces]
  rw [parts, List.append_nil, List.nil_append] at whole
  exact whole

/-! ## Bytes -/

/-- The bytes of a piece, and of the break in front of it, are those of its part of the document. -/
theorem bytes_put (indent : Indent) (writer : Writer) (piece : Piece) (rest : List Piece) :
    (writer.put indent piece).bytes ++ (String.ofList
        (writeFrom indent (piece.leaves writer.depth) (!piece.isData) rest)).toUTF8 =
      writer.bytes ++
        (String.ofList (writeFrom indent writer.depth writer.breaks (piece :: rest))).toUTF8 := by
  rw [writeFrom_cons, put, write_singleton, ByteArray.append_assoc]
  simp only [String.toUTF8_eq_toByteArray]
  rw [← String.toByteArray_append, ← String.ofList_append]

theorem bytes_putAll (indent : Indent) (writer : Writer) (pieces : List Piece) :
    (writer.putAll indent pieces).bytes = writer.bytes ++
      (String.ofList (writeFrom indent writer.depth writer.breaks pieces)).toUTF8 := by
  -- for every writer, since each piece leaves another one for the next
  induction pieces generalizing writer with
  | nil =>
    rw [writeFrom_nil]
    exact ByteArray.append_empty.symm
  | cons piece rest ih =>
    have later : (writer.putAll indent (piece :: rest)).bytes =
        ((writer.put indent piece).putAll indent rest).bytes := rfl
    rw [later, ih, ← bytes_put]
    rfl

/-- What is put from the start is the text of the pieces, so the bytes are a text. -/
theorem finish_putAll (indent : Indent) (pieces : List Piece) :
    (({} : Writer).putAll indent pieces).finish = .ok (String.ofList (writePieces indent pieces)) := by
  have bytes := bytes_putAll indent {} pieces
  rw [ByteArray.empty_append] at bytes
  rw [finish, bytes, Text.fromUTF8?_toUTF8, writePieces_eq_writeFrom]

end Writer

/-! ## Outcomes -/

/-- Writing piece by piece, and checking each name on the way, has the outcome of the document as a
whole. -/
theorem produce_eq_render (indent : Indent) (feed : Feed) : produce indent feed = render indent feed := by
  have run := Writer.puts_feed indent feed {}
  rw [produce, run, render]
  cases (writtenNames feed).find? fun name => !isName name with
  | some name => rfl
  | none => exact Writer.finish_putAll indent (pieces feed)

/-- Rendering fails with a name exactly when it is the first one that is none. -/
theorem render_eq_error_iff {indent : Indent} {feed : Feed} {fault : RenderFault} :
    render indent feed = .error fault ↔ ∃ before name after,
      writtenNames feed = before ++ name :: after ∧ (∀ other ∈ before, IsXmlName other) ∧
        ¬IsXmlName name ∧ fault = .invalidName name := by
  have first (name : String) : (writtenNames feed).find? (fun other => !isName other) = some name ↔
      ∃ before after, writtenNames feed = before ++ name :: after ∧
        (∀ other ∈ before, IsXmlName other) ∧ ¬IsXmlName name := by
    simp only [List.find?_eq_some_iff_append, ← isName_iff, Bool.not_not, Bool.not_eq_true',
      Bool.not_eq_true]
    constructor
    · rintro ⟨isNone, before, after, parts, named⟩
      exact ⟨before, after, parts, named, isNone⟩
    · rintro ⟨before, after, parts, named, isNone⟩
      exact ⟨isNone, before, after, parts, named⟩
  constructor
  · intro failed
    unfold render at failed
    split at failed
    · next name found =>
      obtain ⟨before, after, parts, named, isNone⟩ := (first name).1 found
      exact ⟨before, name, after, parts, named, isNone, (Except.error.inj failed).symm⟩
    · cases failed
  · rintro ⟨before, name, after, parts, named, isNone, rfl⟩
    rw [render, (first name).2 ⟨before, after, parts, named, isNone⟩]

end Atom

open Xml

/-- A feed fails to be written only because of a name, of the first one that is none in the order of
writing, whatever its values are and however far the document is written by then. -/
theorem atomRenderer_outcome (indent : Option Nat) (feed : Feed) :
    (Atom.produce indent feed).mapError .render = atomRenderer indent feed ∧
      (∀ fields ∈ feed.info :: feed.entries, fields.names.Pairwise fun name later =>
        name.toUTF8.data.toList < later.toUTF8.data.toList) ∧
      (∀ error, atomRenderer indent feed = .error error ↔ ∃ before name after,
        feed.info.names ++ feed.entries.flatMap Fields.names = before ++ name :: after ∧
          (∀ other ∈ before, IsXmlName other) ∧ ¬IsXmlName name ∧
            ∃ fault, error = .render fault ∧ fault = .invalidName name ∧
              fault.message = "invalid element name `" ++ name ++ "`") ∧
      ((∃ text, atomRenderer indent feed = .ok text) ↔
        (∀ name ∈ feed.info.names, IsXmlName name) ∧
          ∀ entry ∈ feed.entries, ∀ name ∈ entry.names, IsXmlName name) := by
  refine ⟨?_, ?_, ?_, ?_⟩
  · rw [Atom.produce_eq_render, atomRenderer]
  · intro fields _
    exact fields.sorted.imp fun smaller => Text.toUTF8_lt_of_lt smaller
  · intro error
    rw [atomRenderer, Except.mapError_eq_error_iff]
    constructor
    · rintro ⟨fault, failed, rfl⟩
      obtain ⟨before, name, after, parts, named, isNone, same⟩ := Atom.render_eq_error_iff.1 failed
      exact ⟨before, name, after, parts, named, isNone, fault, rfl, same, same ▸ rfl⟩
    · rintro ⟨before, name, after, parts, named, isNone, fault, rfl, same, _⟩
      exact ⟨fault, Atom.render_eq_error_iff.2 ⟨before, name, after, parts, named, isNone, same⟩, rfl⟩
  · simp only [atomRenderer, Except.mapError_eq_ok_iff, Atom.render_eq_ok_iff, exists_and_left,
      exists_eq, and_true, isName_iff, Atom.writtenNames, List.forall_mem_append,
      List.forall_mem_flatMap]

end PageFeed
