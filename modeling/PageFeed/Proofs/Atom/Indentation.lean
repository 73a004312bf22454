import PageFeed.Proofs.Atom.Structure
import PageFeed.Proofs.Xml.Separation

/-! Feeds under an indentation. A line break stands in front of every tag, but for the end tag of a
field that has a value: it follows the value at once. So with any indentation and with none, a reader
finds the same tokens in every value, or refuses the same value. A field whose value is empty has no
piece between its tags, and there the line break in front of the end tag becomes the content of the
element. -/

namespace PageFeed

namespace Xml

/-! ## Texts read on their own -/

/-- A text that is read as the given tokens, or refused, whatever follows it. -/
def ReadsAs (text : List Char) (found : Option (List Token)) : Prop :=
  ∀ rest, tokens (text ++ rest) = found.bind fun inside => (tokens rest).map (inside ++ ·)

theorem readsAs_nil : ReadsAs [] (some []) := by
  intro rest
  simp

theorem ReadsAs.append {text more : List Char} {found later : Option (List Token)}
    (reads : ReadsAs text found) (readsMore : ReadsAs more later) :
    ReadsAs (text ++ more) (found.bind fun inside => later.map (inside ++ ·)) := by
  intro rest
  rw [List.append_assoc, reads, readsMore]
  cases found with
  | none => rfl
  | some inside =>
    cases later with
    | none => rfl
    | some others => exact map_append_map_append inside others (tokens rest)

theorem readsAs_flatMap {α β : Type} {written : α → List Char} {content : α → Option β}
    {found : β → List Token} {items : List α}
    (reads : ∀ item ∈ items, ReadsAs (written item) ((content item).map found)) :
    ReadsAs (items.flatMap written) ((items.mapM content).map (·.flatMap found)) := by
  induction items with
  | nil => exact readsAs_nil
  | cons item items ih =>
    obtain ⟨first, more⟩ := List.forall_mem_cons.1 reads
    have both := first.append (ih more)
    rw [List.flatMap_cons, List.mapM_cons]
    revert both
    cases content item with
    | none => exact id
    | some inside => cases items.mapM content <;> exact id

theorem readsAs_of_reads {pieces : List Piece} (reads : Reads pieces) :
    ReadsAs (write pieces) (some (pieces.map Piece.token)) := reads

theorem ReadsAs.tokens_eq {text : List Char} {found : Option (List Token)}
    (reads : ReadsAs text found) : tokens text = found := by
  have whole := reads []
  rw [List.append_nil, tokens] at whole
  rw [whole]
  cases found <;> simp

/-! ## Line breaks -/

/-- What stands in front of a tag at a depth. -/
def lineBreak : Option Nat → Nat → List Char
  | none, _ => []
  | some width, depth => '\n' :: List.replicate (width * depth) ' '

/-- What a reader finds in front of a tag at a depth. -/
def breakTokens : Option Nat → Nat → List Token
  | none, _ => []
  | some width, depth => [.characters ('\n' :: List.replicate (width * depth) ' ')]

theorem decode_of_not_mem {text : List Char} (free : '&' ∉ text) : decode text = some text := by
  induction text with
  | nil => rfl
  | cons c rest ih =>
    have other : c ≠ '&' := fun same => free (same ▸ List.mem_cons_self)
    have later : '&' ∉ rest := fun member => free (List.mem_cons_of_mem _ member)
    rw [decode_cons other, ih later]
    rfl

theorem tokens_lineBreak (indent : Option Nat) (depth : Nat) {rest : List Char}
    (tag : BeginsTag rest) :
    tokens (lineBreak indent depth ++ rest) = (tokens rest).map (breakTokens indent depth ++ ·) := by
  cases indent with
  | none => simp [lineBreak, breakTokens]
  | some width =>
    have blanks : ∀ c ∈ lineBreak (some width) depth, c = '\n' ∨ c = ' ' := by
      intro c member
      rcases List.mem_cons.1 member with rfl | spaces
      · exact .inl rfl
      · exact .inr (List.eq_of_mem_replicate spaces)
    have absent (c : Char) (other : ¬(c = '\n' ∨ c = ' ')) : c ∉ lineBreak (some width) depth :=
      fun member => other (blanks c member)
    have closed : ¬cdataClose <:+: lineBreak (some width) depth := fun held =>
      absent '>' (by decide) (held.subset (by decide))
    have read := readTokens_plain (List.cons_ne_nil _ _) (absent '<' (by decide)) closed
      (decode_of_not_mem (absent '&' (by decide))) tag
    exact tokens_of_readTokens read

theorem readsAs_break (indent : Option Nat) (depth : Nat) {piece : Piece} (readable : piece.IsReadable)
    (markup : ∀ content, piece ≠ .text content) :
    ReadsAs (lineBreak indent depth ++ write [piece])
      (some (breakTokens indent depth ++ [piece.token])) := by
  intro rest
  have tag : BeginsTag (write [piece] ++ rest) := by
    obtain ⟨c, behind, start, isTag⟩ := piece.write_cons readable
    simp [write_singleton, BeginsTag, start, isTag markup]
  rw [List.append_assoc, tokens_lineBreak indent depth tag, reads_markup readable markup]
  exact map_append_map_append (breakTokens indent depth) [piece.token] (tokens rest)

/-! ## Indented pieces -/

/-- The written form of pieces at some depth, with or without an indentation. -/
def writeFrom (indent : Option Nat) (depth : Nat) (breaks : Bool) (pieces : List Piece) : List Char :=
  match indent with
  | none => write pieces
  | some width => writeIndented width depth breaks pieces

theorem writeFrom_cons (indent : Option Nat) (depth : Nat) (breaks : Bool) (piece : Piece)
    (rest : List Piece) : writeFrom indent depth breaks (piece :: rest) =
      (if breaks && !piece.isData then lineBreak indent (piece.standsAt depth) else []) ++
        write [piece] ++ writeFrom indent (piece.leaves depth) (!piece.isData) rest := by
  rw [write_singleton]
  cases indent with
  | none => simp [writeFrom, lineBreak, write]
  | some width => rfl

theorem writeFrom_nil (indent : Option Nat) (depth : Nat) (breaks : Bool) :
    writeFrom indent depth breaks [] = [] := by
  cases indent <;> rfl

theorem writeFrom_openTag (indent : Option Nat) (depth : Nat) (name : String) (attrs : Attributes)
    (rest : List Piece) : writeFrom indent depth true (.openTag name attrs :: rest) =
      (lineBreak indent depth ++ write [.openTag name attrs]) ++
        writeFrom indent (depth + 1) true rest :=
  writeFrom_cons indent depth true (.openTag name attrs) rest

theorem writeFrom_closeTag (indent : Option Nat) (depth : Nat) (breaks : Bool) (name : String)
    (rest : List Piece) : writeFrom indent (depth + 1) breaks (.closeTag name :: rest) =
      (if breaks then lineBreak indent depth else []) ++ write [.closeTag name] ++
        writeFrom indent depth true rest := by
  rw [writeFrom_cons]
  cases breaks <;> rfl

theorem writeFrom_data (indent : Option Nat) (depth : Nat) (breaks : Bool) {piece : Piece}
    (data : piece.isData) (rest : List Piece) : writeFrom indent depth breaks (piece :: rest) =
      write [piece] ++ writeFrom indent depth false rest := by
  have stays : piece.leaves depth = depth := by
    cases piece with
    | text content => rfl
    | cdata content => rfl
    | _ => cases data
  -- no break in front of data, and none in front of what follows it
  rw [writeFrom_cons, data, stays, Bool.not_true, Bool.and_false, if_neg Bool.false_ne_true,
    List.nil_append]

theorem writePieces_eq_writeFrom (indent : Option Nat) (pieces : List Piece) :
    Atom.writePieces indent pieces = writeFrom indent 0 false pieces := by
  cases indent <;> rfl

/-- Elements that begin on a line of their own and are left at the depth at which they begin. -/
theorem writeFrom_flatMap {α : Type} {indent : Option Nat} {depth : Nat} {pieces : α → List Piece}
    {written : α → List Char}
    (one : ∀ item rest, writeFrom indent depth true (pieces item ++ rest) =
      written item ++ writeFrom indent depth true rest) (items : List α) (rest : List Piece) :
    writeFrom indent depth true (items.flatMap pieces ++ rest) =
      items.flatMap written ++ writeFrom indent depth true rest := by
  induction items with
  | nil => rfl
  | cons item items ih =>
    simp only [List.flatMap_cons, List.append_assoc]
    rw [one, ih]

end Xml

namespace Atom

open Xml

/-! ## Written fields -/

/-- What stands between the tags of a field. -/
def indentedValue (indent : Indent) (depth : Nat) (value : String) : List Char :=
  if value.isEmpty then lineBreak indent depth else write (valuePieces value.toList)

def indentedField (indent : Indent) (depth : Nat) (field : String × String) : List Char :=
  (lineBreak indent depth ++ write [.openTag field.1 []]) ++
    (indentedValue indent depth field.2 ++ write [.closeTag field.1])

def indentedEntry (indent : Indent) (entry : Entry) : List Char :=
  (lineBreak indent 1 ++ write [.openTag "entry" []]) ++
    entry.toList.flatMap (indentedField indent 2) ++ (lineBreak indent 1 ++ write [.closeTag "entry"])

theorem valuePieces_cases (value : String) :
    (value = "" ∧ valuePieces value.toList = []) ∨
      (value ≠ "" ∧ ∃ piece : Piece, piece.isData ∧ piece.write ≠ [] ∧
        valuePieces value.toList = [piece]) := by
  unfold valuePieces
  split
  · next inner shape =>
    refine .inr ⟨?_, .cdata inner, rfl, List.cons_ne_nil _ _, rfl⟩
    rintro rfl
    cases shape
  · by_cases empty : value = ""
    · subst empty
      exact .inl ⟨rfl, rfl⟩
    · have more : value.toList ≠ [] := by simpa using empty
      refine .inr ⟨empty, .text value.toList, rfl, escape_ne_nil more, ?_⟩
      rw [if_neg (by simpa using more)]

theorem writeFrom_field (indent : Indent) (depth : Nat) (field : String × String)
    (rest : List Piece) : writeFrom indent depth true (fieldPieces field ++ rest) =
      indentedField indent depth field ++ writeFrom indent depth true rest := by
  have parts : fieldPieces field ++ rest =
      .openTag field.1 [] :: (valuePieces field.2.toList ++ .closeTag field.1 :: rest) := by
    simp [fieldPieces]
  rw [parts, writeFrom_openTag, indentedField, indentedValue]
  rcases valuePieces_cases field.2 with ⟨empty, noPiece⟩ | ⟨more, piece, data, _, onePiece⟩
  · -- the start tag is the piece before the end tag, which therefore gets a line break
    rw [noPiece, List.nil_append, writeFrom_closeTag, if_pos rfl, if_pos (by simp [empty])]
    simp only [List.append_assoc]
  · rw [onePiece, List.singleton_append, writeFrom_data _ _ _ data, writeFrom_closeTag,
      if_neg Bool.false_ne_true, if_neg (by simpa using more)]
    simp only [List.append_assoc, List.nil_append]

theorem writeFrom_entry (indent : Indent) (entry : Entry) (rest : List Piece) :
    writeFrom indent 1 true (entryPieces entry ++ rest) =
      indentedEntry indent entry ++ writeFrom indent 1 true rest := by
  have parts : entryPieces entry ++ rest =
      .openTag "entry" [] :: (entry.toList.flatMap fieldPieces ++ .closeTag "entry" :: rest) := by
    simp [entryPieces, fieldsPieces]
  rw [parts, writeFrom_openTag, writeFrom_flatMap (writeFrom_field indent 2), writeFrom_closeTag,
    if_pos rfl, indentedEntry]
  simp only [List.append_assoc]

/-- A document is its declaration and the elements of its fields and entries, each of them behind a line
break, between the tags of the root element. -/
theorem writePieces_pieces (indent : Indent) (feed : Feed) : writePieces indent (pieces feed) =
    write [.declaration] ++ ((lineBreak indent 0 ++ write [.openTag "feed" [("xmlns", nameSpace)]]) ++
      (feed.info.toList.flatMap (indentedField indent 1) ++
        (feed.entries.flatMap (indentedEntry indent) ++
          (lineBreak indent 0 ++ write [.closeTag "feed"])))) := by
  have parts : pieces feed = .declaration :: .openTag "feed" [("xmlns", nameSpace)] ::
      (feed.info.toList.flatMap fieldPieces ++
        (feed.entries.flatMap entryPieces ++ [.closeTag "feed"])) := by
    simp [pieces, fieldsPieces]
  have declares (rest : List Piece) : writeFrom indent 0 false (.declaration :: rest) =
      write [.declaration] ++ writeFrom indent 0 true rest :=
    writeFrom_cons indent 0 false .declaration rest
  rw [writePieces_eq_writeFrom, parts, declares, writeFrom_openTag, writeFrom_flatMap (writeFrom_field indent 1),
    writeFrom_flatMap (writeFrom_entry indent), writeFrom_closeTag, if_pos rfl, writeFrom_nil,
    List.append_nil]

/-! ## Tokens of documents -/

/-- The name of a field and what a reader finds in its value. -/
def fieldContent? (field : String × String) : Option (String × List Token) :=
  (tokens (write (valuePieces field.2.toList))).map fun found => (field.1, found)

/-- What a reader finds in the values of a feed. -/
structure Contents where
  info : List (String × List Token)
  entries : List (List (String × List Token))

def contents? (feed : Feed) : Option Contents := do
  let info ← feed.info.toList.mapM fieldContent?
  let entries ← feed.entries.mapM fun entry => entry.toList.mapM fieldContent?
  return ⟨info, entries⟩

/-- The element of a field: line breaks stand around it, and in it only if nothing else does. -/
def fieldTokens (indent : Indent) (depth : Nat) (content : String × List Token) : List Token :=
  breakTokens indent depth ++ .startTag content.1 [] ::
    (if content.2.isEmpty then breakTokens indent depth else content.2) ++ [.endTag content.1]

def entryTokens (indent : Indent) (content : List (String × List Token)) : List Token :=
  breakTokens indent 1 ++ .startTag "entry" [] :: content.flatMap (fieldTokens indent 2) ++
    breakTokens indent 1 ++ [.endTag "entry"]

def documentTokens (indent : Indent) (contents : Contents) : List Token :=
  .declaration [("version", "1.0"), ("encoding", "utf-8")] :: breakTokens indent 0 ++
    .startTag "feed" [("xmlns", nameSpace)] :: contents.info.flatMap (fieldTokens indent 1) ++
      contents.entries.flatMap (entryTokens indent) ++ breakTokens indent 0 ++ [.endTag "feed"]

/-- A value is read on its own when a tag follows. -/
theorem tokens_value (value : String) {behind : List Char} (tag : BeginsTag behind) :
    tokens (write (valuePieces value.toList) ++ behind) =
      (tokens (write (valuePieces value.toList))).bind fun inside =>
        (tokens behind).map (inside ++ ·) := by
  unfold valuePieces
  split
  · next inner shape =>
    rw [write_singleton]
    exact tokens_append_of_endsSection (.inr (List.suffix_append _ _)) tag
  · split
    · simp [write, tokens]
    · next more =>
      have readable : (Piece.text value.toList).IsReadable := fun empty => more (by rw [empty]; rfl)
      have alone : tokens ((Piece.text value.toList).write ++ []) =
          (tokens []).map ((Piece.text value.toList).token :: ·) :=
        tokens_write readable fun _ _ => rfl
      rw [List.append_nil, tokens] at alone
      rw [write_singleton, tokens_write readable fun _ _ => tag, alone]
      rfl

theorem tokens_eq_nil_iff {text : List Char} {found : List Token} (read : tokens text = some found) :
    found = [] ↔ text = [] := by
  constructor
  · rintro rfl
    match text with
    | [] => rfl
    | c :: behind =>
      obtain ⟨front, rest, later, first, _, same⟩ := exists_readTokens_of_tokens read
      obtain ⟨rfl, rfl⟩ := List.append_eq_nil_iff.1 same.symm
      obtain ⟨taken, _, extent⟩ := exists_extent first
      cases extent with
      | tag _ token isTag => exact absurd isTag.1 List.not_mem_nil
  · rintro rfl
    rw [tokens] at read
    exact (Option.some.inj read).symm

theorem write_valuePieces_eq_nil_iff (value : String) :
    write (valuePieces value.toList) = [] ↔ value = "" := by
  rcases valuePieces_cases value with ⟨rfl, noPiece⟩ | ⟨more, piece, _, visible, onePiece⟩
  · rw [noPiece]
    exact ⟨fun _ => rfl, fun _ => rfl⟩
  · rw [onePiece, write_singleton]
    exact ⟨fun nothing => absurd nothing visible, fun empty => absurd empty more⟩

theorem fieldContent?_eq_nil_iff {field : String × String} {content : String × List Token}
    (read : fieldContent? field = some content) : content.2 = [] ↔ field.2 = "" := by
  obtain ⟨found, held, rfl⟩ := Option.map_eq_some_iff.1 read
  rw [tokens_eq_nil_iff held, write_valuePieces_eq_nil_iff]

theorem readsAs_field {field : String × String} (named : isName field.1) (indent : Indent)
    (depth : Nat) : ReadsAs (indentedField indent depth field)
      ((fieldContent? field).map (fieldTokens indent depth)) := by
  have closable : (Piece.closeTag field.1).IsReadable := named
  have opens := readsAs_break indent depth (isReadable_openTag named) (by simp)
  by_cases empty : field.2 = ""
  · have nothing : fieldContent? field = some (field.1, []) := by
      rw [fieldContent?, (write_valuePieces_eq_nil_iff _).2 empty, tokens]
      rfl
    have closes := readsAs_break indent depth closable (by simp)
    have both := opens.append closes
    rw [indentedField, indentedValue, if_pos (by simpa using empty), nothing]
    simpa [fieldTokens, Piece.token] using both
  · -- the value is read up to the end tag, which stands right behind it
    have closes : ReadsAs (write (valuePieces field.2.toList) ++ write [.closeTag field.1])
        ((tokens (write (valuePieces field.2.toList))).map (· ++ [.endTag field.1])) := by
      intro rest
      have tag : BeginsTag (write [.closeTag field.1] ++ rest) := rfl
      rw [List.append_assoc, tokens_value _ tag, reads_closeTag named]
      cases tokens (write (valuePieces field.2.toList)) <;> cases tokens rest <;>
        simp [Piece.token]
    have both := opens.append closes
    rw [indentedField, indentedValue, if_neg (by simpa using empty)]
    cases read : tokens (write (valuePieces field.2.toList)) with
    | none => simpa [fieldContent?, read] using both
    | some found =>
      have more : found ≠ [] := by
        rw [Ne, tokens_eq_nil_iff read, write_valuePieces_eq_nil_iff]
        exact empty
      simpa [fieldContent?, read, fieldTokens, Piece.token, more] using both

theorem readsAs_entry {entry : Entry} (named : ∀ field ∈ entry.toList, isName field.1)
    (indent : Indent) : ReadsAs (indentedEntry indent entry)
      ((entry.toList.mapM fieldContent?).map (entryTokens indent)) := by
  have opens := readsAs_break indent 1 isReadable_entry (by simp)
  have fields := readsAs_flatMap fun field member => readsAs_field (named field member) indent 2
  have closable : (Piece.closeTag "entry").IsReadable := isReadable_entry.1
  have closes := readsAs_break indent 1 closable (by simp)
  have whole := (opens.append fields).append closes
  rw [indentedEntry]
  generalize entry.toList.mapM fieldContent? = content at whole ⊢
  cases content with
  | none => exact whole
  | some content => simpa [entryTokens, Piece.token] using whole

/-- The tokens of a document are those of its values between tags and line breaks. -/
theorem tokens_writePieces {feed : Feed} (named : ∀ field ∈ writtenFields feed, isName field.1)
    (indent : Indent) : tokens (writePieces indent (pieces feed)) =
      (contents? feed).map (documentTokens indent) := by
  rw [forall_mem_writtenFields] at named
  have opens := readsAs_break indent 0 isReadable_feed (by simp)
  have closable : (Piece.closeTag "feed").IsReadable := isReadable_feed.1
  have closes := readsAs_break indent 0 closable (by simp)
  have info := readsAs_flatMap fun field member => readsAs_field (named.1 field member) indent 1
  have entries := readsAs_flatMap fun entry member => readsAs_entry (named.2 entry member) indent
  have whole := (readsAs_of_reads reads_declaration).append
    (opens.append (info.append (entries.append closes)))
  rw [writePieces_pieces, whole.tokens_eq, contents?]
  cases feed.info.toList.mapM fieldContent? with
  | none => rfl
  | some info =>
    cases feed.entries.mapM fun entry => entry.toList.mapM fieldContent? with
    | none => rfl
    | some entries => simp [documentTokens, Piece.token]

/-- A feed whose names are names is written with any indentation and without one, and a reader finds the
same contents in both documents or refuses both. They differ in the line breaks around elements, and in
those that stand in the elements of empty values. -/
theorem render_indented (feed : Feed) (width : Nat)
    (named : ∀ name ∈ writtenNames feed, isName name) :
    ∃ flat indented, render none feed = .ok flat ∧ render (some width) feed = .ok indented ∧
      tokens flat.toList = (contents? feed).map (documentTokens none) ∧
      tokens indented.toList = (contents? feed).map (documentTokens (some width)) ∧
      ∀ field ∈ writtenFields feed, ∀ content, fieldContent? field = some content →
        (content.2 = [] ↔ field.2 = "") := by
  have fieldNamed := (forall_isName_iff feed).1 named
  have written (indent : Indent) :
      render indent feed = .ok (String.ofList (writePieces indent (pieces feed))) :=
    render_eq_ok_iff.2 ⟨named, rfl⟩
  refine ⟨_, _, written none, written (some width), ?_, ?_, fun field _ content read =>
    fieldContent?_eq_nil_iff read⟩
  · rw [String.toList_ofList, tokens_writePieces fieldNamed]
  · rw [String.toList_ofList, tokens_writePieces fieldNamed]

/-- A feed with an empty value, text, a section and one that closes itself. -/
def remarks : Feed where
  info := .ofList [("id", ""), ("title", "a < b")]
  entries := [.ofList [("content", "<![CDATA[<p>Hot</p>]]>"),
    ("note", "<![CDATA[]]><b/><![CDATA[]]>")], ∅]

theorem render_indented_remarks : (∀ name ∈ writtenNames remarks, isName name) ∧
    ∃ flat indented, render none remarks = .ok flat ∧ render (some 2) remarks = .ok indented ∧
      tokens flat.toList = (contents? remarks).map (documentTokens none) ∧
      tokens indented.toList = (contents? remarks).map (documentTokens (some 2)) ∧
      ∀ field ∈ writtenFields remarks, ∀ content, fieldContent? field = some content →
        (content.2 = [] ↔ field.2 = "") :=
  ⟨by decide, render_indented remarks 2 (by decide)⟩

def Node.text : Node → List Char
  | .characters text => text
  | .element _ _ _ => []

/-- The character data right inside of the first child of the root element that has a name. -/
def fieldText? (name : String) (document : Document) : Option (List Char) :=
  match document.root with
  | .element _ _ children => children.findSome? fun
    | .element other _ inside => if other = name then some (inside.flatMap Node.text) else none
    | .characters _ => none
  | .characters _ => none

/-- A feed with nothing but an empty value. -/
def blankId : Feed where
  info := .ofList [("id", "")]
  entries := []

theorem fieldText?_not_kept : ¬∀ (feed : Feed) (width : Nat) (flat indented name : String),
    (∀ key ∈ writtenNames feed, isName key) → name ∈ feed.info.names →
    render none feed = .ok flat → render (some width) feed = .ok indented →
    (readDocument flat.toList).bind (fieldText? name) =
      (readDocument indented.toList).bind (fieldText? name) := by
  intro kept
  obtain ⟨flat, rendered⟩ : ∃ flat, render none blankId = .ok flat := ⟨_, rfl⟩
  obtain ⟨indented, renderedWide⟩ : ∃ indented, render (some 2) blankId = .ok indented := ⟨_, rfl⟩
  have same := kept blankId 2 flat indented "id" (by decide) (by decide) rendered renderedWide
  cases rendered
  cases renderedWide
  revert same
  decide +kernel

end Atom

end PageFeed
