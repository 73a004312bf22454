import PageFeed.Proofs.Atom.Layout
import PageFeed.Proofs.Xml.Extent

/-! The tags of a rendered feed, as the reader of tags, text and CDATA sections finds them. They are those
that the names of the feed call for, as long as the written form of every value is character data. A value
that is written raw may hold tags of its own, and since every raw value ends like a section, no later piece
can take one of these tags back: a single such value makes the document have more tags, or none that this
reader accepts. -/

namespace PageFeed

/-! ## Tags of documents -/

namespace Xml

/-- Whether a token is a start tag or an end tag. -/
def Token.isTag : Token → Bool
  | startTag _ _ => true
  | endTag _ => true
  | _ => false

/-- The start tags, end tags and attributes of a document, in the order in which they are read. -/
def documentTags (text : List Char) : Option (List Token) :=
  (readDocument text).bind fun _ => (tokens text).map (·.filter Token.isTag)

theorem filter_isTag_element (name : String) (attrs : Attributes) (found : List Token) :
    (.startTag name attrs :: found ++ [.endTag name] : List Token).filter Token.isTag =
      .startTag name attrs :: found.filter Token.isTag ++ [.endTag name] := by
  simp [List.filter_cons, Token.isTag]

theorem filter_isTag_of_data {found : List Token} (data : ∀ token ∈ found, token.isCharacters) :
    found.filter Token.isTag = [] := by
  rw [List.filter_eq_nil_iff]
  intro token member
  have isData := data token member
  cases token <;> simp_all [Token.isCharacters, Token.isTag]

/-- Tokens that stand inside of an element and leave it open. -/
def Balanced (found : List Token) : Prop :=
  ∀ reading : Reading, reading.opened ≠ [] →
    ∃ nodes, found.foldlM Reading.take reading = some ⟨nodes, reading.opened⟩

theorem balanced_nil : Balanced [] := fun reading _ => ⟨reading.nodes, rfl⟩

theorem Balanced.append {first second : List Token} (balanced : Balanced first)
    (later : Balanced second) : Balanced (first ++ second) := by
  intro reading inside
  obtain ⟨nodes, taken⟩ := balanced reading inside
  rw [List.foldlM_append, taken]
  exact later ⟨nodes, reading.opened⟩ inside

theorem balanced_of_data {found : List Token} (data : ∀ token ∈ found, token.isCharacters) :
    Balanced found := by
  induction found with
  | nil => exact balanced_nil
  | cons token found ih =>
    obtain ⟨isData, restData⟩ := List.forall_mem_cons.1 data
    intro reading inside
    cases token with
    | characters text =>
      have within : reading.opened.isEmpty = false := by simpa using inside
      obtain ⟨nodes, taken⟩ := ih restData ⟨addCharacters text reading.nodes, reading.opened⟩ inside
      refine ⟨nodes, ?_⟩
      rw [List.foldlM_cons]
      simpa [Reading.take, within] using taken
    | _ => cases isData

/-- An element around balanced tokens is put behind the nodes read so far. -/
theorem Balanced.exists_element (name : String) (attrs : Attributes) {found : List Token}
    (balanced : Balanced found) (reading : Reading) :
    ∃ children,
      (Token.startTag name attrs :: found ++ [Token.endTag name]).foldlM Reading.take reading =
        some ⟨.element name attrs children :: reading.nodes, reading.opened⟩ := by
  obtain ⟨nodes, taken⟩ :=
    balanced ⟨[], (name, attrs, reading.nodes) :: reading.opened⟩ (List.cons_ne_nil _ _)
  refine ⟨nodes.reverse, ?_⟩
  rw [List.cons_append, List.foldlM_cons]
  change (found ++ [Token.endTag name]).foldlM Reading.take
    ⟨[], (name, attrs, reading.nodes) :: reading.opened⟩ = _
  rw [List.foldlM_append, taken]
  simp [Reading.take]

theorem Balanced.element (name : String) (attrs : Attributes) {found : List Token}
    (balanced : Balanced found) : Balanced (.startTag name attrs :: found ++ [.endTag name]) := by
  intro reading _
  obtain ⟨children, taken⟩ := balanced.exists_element name attrs reading
  exact ⟨.element name attrs children :: reading.nodes, taken⟩

/-- A declaration and one element around balanced tokens are a document. -/
theorem documentTags_of_balanced {text : List Char} {attrs given : Attributes} {name : String}
    {found : List Token} (balanced : Balanced found)
    (read : tokens text =
      some (.declaration attrs :: (.startTag name given :: found ++ [.endTag name]))) :
    documentTags text =
      some (.startTag name given :: found.filter Token.isTag ++ [.endTag name]) := by
  obtain ⟨children, taken⟩ := balanced.exists_element name given {}
  have document : readDocument text = some ⟨attrs, .element name given children⟩ := by
    simp only [readDocument, read, taken]
  have noTag : (Token.declaration attrs).isTag = false := rfl
  rw [documentTags, document, read, Option.bind_some, Option.map_some,
    List.filter_cons_of_neg (by simp [noTag]), filter_isTag_element]

/-- Inside of a document no second declaration stands. -/
theorem isTag_or_isCharacters_of_foldlM {found : List Token} {reading final : Reading}
    (taken : found.foldlM Reading.take reading = some final) :
    ∀ token ∈ found, token.isTag ∨ token.isCharacters := by
  induction found generalizing reading with
  | nil => simp
  | cons token found ih =>
    rw [List.foldlM_cons] at taken
    obtain ⟨next, first, taken⟩ := Option.bind_eq_some_iff.1 taken
    refine List.forall_mem_cons.2 ⟨?_, ih taken⟩
    cases token <;> simp_all [Reading.take, Token.isTag, Token.isCharacters]

theorem isTag_or_isCharacters_of_readDocument {text : List Char} {attrs : Attributes}
    {found : List Token} {document : Document}
    (read : tokens text = some (.declaration attrs :: found))
    (isDocument : readDocument text = some document) :
    ∀ token ∈ found, token.isTag ∨ token.isCharacters := by
  simp only [readDocument, read] at isDocument
  split at isDocument
  · next taken => exact isTag_or_isCharacters_of_foldlM taken
  · cases isDocument

/-! ## Written elements -/

/-- Written elements that are read as tokens with some tags, whatever follows them. -/
def Stands (written : List Char) (tags : List Token) : Prop :=
  ∃ found, (∀ rest, tokens (written ++ rest) = (tokens rest).map (found ++ ·)) ∧ Balanced found ∧
    found.filter Token.isTag = tags

theorem stands_nil : Stands [] [] := ⟨[], by simp, balanced_nil, rfl⟩

theorem Stands.append {written more : List Char} {tags later : List Token}
    (stands : Stands written tags) (standsMore : Stands more later) :
    Stands (written ++ more) (tags ++ later) := by
  obtain ⟨found, reads, balanced, rfl⟩ := stands
  obtain ⟨others, readsMore, balancedMore, rfl⟩ := standsMore
  refine ⟨found ++ others, fun rest => ?_, balanced.append balancedMore, List.filter_append ..⟩
  rw [List.append_assoc, reads, readsMore, map_append_map_append]

theorem stands_flatMap {α : Type} {written : α → List Char} {tags : α → List Token} {items : List α}
    (stands : ∀ item ∈ items, Stands (written item) (tags item)) :
    Stands (items.flatMap written) (items.flatMap tags) := by
  induction items with
  | nil => exact stands_nil
  | cons item items ih =>
    obtain ⟨first, more⟩ := List.forall_mem_cons.1 stands
    exact first.append (ih more)

/-- Written elements in which at least some number of tags is read, and no more of them only if
something holds. -/
def Demands (written : List Char) (tags : List Token) (holds : Prop) : Prop :=
  ∀ rest found, tokens (written ++ rest) = some found →
    ∃ inside later, found = inside ++ later ∧ tokens rest = some later ∧
      tags.length ≤ (inside.filter Token.isTag).length ∧
      ((∀ token ∈ inside, token.isTag ∨ token.isCharacters) →
        (inside.filter Token.isTag).length = tags.length → holds)

theorem demands_nil {holds : Prop} (held : holds) : Demands [] [] holds :=
  fun _ found read => ⟨[], found, rfl, read, Nat.le_refl _, fun _ _ => held⟩

theorem Demands.append {written more : List Char} {tags later : List Token} {holds holdsMore : Prop}
    (demands : Demands written tags holds) (demandsMore : Demands more later holdsMore) :
    Demands (written ++ more) (tags ++ later) (holds ∧ holdsMore) := by
  intro rest found read
  rw [List.append_assoc] at read
  obtain ⟨inside, found, rfl, read, least, only⟩ := demands _ _ read
  obtain ⟨others, found, rfl, read, leastMore, onlyMore⟩ := demandsMore _ _ read
  refine ⟨inside ++ others, found, by simp, read, ?_, fun known same => ?_⟩
  · simp only [List.filter_append, List.length_append]
    omega
  · obtain ⟨insideKnown, othersKnown⟩ := List.forall_mem_append.1 known
    simp only [List.filter_append, List.length_append] at same
    exact ⟨only insideKnown (by omega), onlyMore othersKnown (by omega)⟩

theorem demands_flatMap {α : Type} {written : α → List Char} {tags : α → List Token}
    {holds : α → Prop} {items : List α}
    (demands : ∀ item ∈ items, Demands (written item) (tags item) (holds item)) :
    Demands (items.flatMap written) (items.flatMap tags) (∀ item ∈ items, holds item) := by
  induction items with
  | nil => exact demands_nil (by simp)
  | cons item items ih =>
    obtain ⟨first, more⟩ := List.forall_mem_cons.1 demands
    rw [List.forall_mem_cons]
    exact first.append (ih more)

theorem Demands.imp {written : List Char} {tags : List Token} {holds other : Prop}
    (demands : Demands written tags holds) (implies : holds → other) :
    Demands written tags other := by
  intro rest found read
  obtain ⟨inside, later, same, read, least, only⟩ := demands rest found read
  exact ⟨inside, later, same, read, least, fun known equal => implies (only known equal)⟩

/-- What is read as the same tokens whatever follows it has just their tags. -/
theorem demands_of_tokens {written : List Char} {inside : List Token}
    (reads : ∀ rest, tokens (written ++ rest) = (tokens rest).map (inside ++ ·)) {holds : Prop}
    (held : holds) : Demands written (inside.filter Token.isTag) holds := by
  intro rest found read
  rw [reads] at read
  obtain ⟨later, readRest, rfl⟩ := Option.map_eq_some_iff.1 read
  exact ⟨inside, later, rfl, readRest, Nat.le_refl _, fun _ _ => held⟩

theorem Stands.demands {written : List Char} {tags : List Token} (stands : Stands written tags)
    {holds : Prop} (held : holds) : Demands written tags holds := by
  obtain ⟨inside, reads, _, rfl⟩ := stands
  exact demands_of_tokens reads held

section Elements

variable {name : String} {attrs : Attributes}

theorem write_singleton (piece : Piece) : write [piece] = piece.write := List.append_nil _

theorem write_append (first second : List Piece) :
    write (first ++ second) = write first ++ write second := List.flatMap_append

theorem write_flatMap {α : Type} (items : List α) (pieces : α → List Piece) :
    write (items.flatMap pieces) = items.flatMap fun item => write (pieces item) := by
  simp only [write, List.flatMap_assoc]

theorem reads_openTag (readable : (Piece.openTag name attrs).IsReadable) :
    Reads [.openTag name attrs] := reads_markup readable (by simp)

theorem reads_closeTag (named : isName name) : Reads [.closeTag name] := by
  have readable : (Piece.closeTag name).IsReadable := named
  exact reads_markup readable (by simp)

theorem Demands.element {inside : List Char} {tags : List Token} {holds : Prop}
    (readable : (Piece.openTag name attrs).IsReadable) (demands : Demands inside tags holds) :
    Demands (write [.openTag name attrs] ++ inside ++ write [.closeTag name])
      (.startTag name attrs :: tags ++ [.endTag name]) holds := by
  have opens : Demands (write [.openTag name attrs]) [.startTag name attrs] True :=
    demands_of_tokens (reads_openTag readable) trivial
  have closes : Demands (write [.closeTag name]) [.endTag name] True :=
    demands_of_tokens (reads_closeTag readable.1) trivial
  exact ((opens.append demands).append closes).imp fun held => held.1.2

theorem Stands.element {inside : List Char} {tags : List Token}
    (readable : (Piece.openTag name attrs).IsReadable) (stands : Stands inside tags) :
    Stands (write [.openTag name attrs] ++ inside ++ write [.closeTag name])
      (.startTag name attrs :: tags ++ [.endTag name]) := by
  obtain ⟨found, reads, balanced, rfl⟩ := stands
  refine ⟨.startTag name attrs :: found ++ [.endTag name], fun rest => ?_,
    balanced.element name attrs, filter_isTag_element name attrs found⟩
  rw [List.append_assoc, List.append_assoc, reads_openTag readable, reads,
    reads_closeTag readable.1, map_append_map_append, map_append_map_append]
  rfl

/-- An element with nothing but character data in it stands with its two tags. -/
theorem stands_data (named : isName name) {inside : List Char} {found : List Token}
    (data : ∀ token ∈ found, token.isCharacters)
    (reads : ∀ rest, BeginsTag rest → tokens (inside ++ rest) = (tokens rest).map (found ++ ·)) :
    Stands (write [.openTag name []] ++ inside ++ write [.closeTag name])
      [.startTag name [], .endTag name] := by
  have readable := isReadable_openTag named
  refine ⟨.startTag name [] :: found ++ [.endTag name], fun rest => ?_,
    (balanced_of_data data).element name [], ?_⟩
  · have tag : BeginsTag (write [.closeTag name] ++ rest) := rfl
    rw [List.append_assoc, List.append_assoc, reads_openTag readable, reads _ tag,
      reads_closeTag named, map_append_map_append, map_append_map_append]
    rfl
  · rw [filter_isTag_element, filter_isTag_of_data data]
    rfl

/-- An element of a text that ends like a section has no other tags only if the text is character
data. -/
theorem demands_data (named : isName name) {inside : List Char} (ends : EndsSection inside) :
    Demands (write [.openTag name []] ++ inside ++ write [.closeTag name])
      [.startTag name [], .endTag name] (IsCharacterData inside) := by
  have readable := isReadable_openTag named
  intro rest found read
  have tag : BeginsTag (write [.closeTag name] ++ rest) := rfl
  rw [List.append_assoc, List.append_assoc, reads_openTag readable] at read
  obtain ⟨found, readInside, rfl⟩ := Option.map_eq_some_iff.1 read
  obtain ⟨between, found, rfl, readClose, only⟩ := exists_tokens_of_endsSection ends tag readInside
  rw [reads_closeTag named] at readClose
  obtain ⟨later, readRest, rfl⟩ := Option.map_eq_some_iff.1 readClose
  -- two tags are those of the element; when there are no others, all that is between is data
  refine ⟨.startTag name [] :: between ++ [.endTag name], later, by simp [Piece.token], readRest, ?_,
    fun known same => only fun token member => ?_⟩
  · rw [filter_isTag_element]
    simp
  · rw [filter_isTag_element] at same
    have none : between.filter Token.isTag = [] := by simpa using same
    have isNoTag : ¬token.isTag := List.filter_eq_nil_iff.1 none token member
    exact (known token (by simp [member])).resolve_left isNoTag

end Elements

end Xml

/-! ## Rendered feeds -/

namespace Atom

open Xml

/-- The tags of a field's element. -/
def fieldTags (name : String) : List Token := [.startTag name [], .endTag name]

/-- The tags of an entry's element. -/
def entryTags (names : List String) : List Token :=
  .startTag "entry" [] :: names.flatMap fieldTags ++ [.endTag "entry"]

/-- The tags that the names of a feed and of its entries call for. -/
def feedTags (info : List String) (entries : List (List String)) : List Token :=
  .startTag "feed" [("xmlns", nameSpace)] ::
    (info.flatMap fieldTags ++ entries.flatMap entryTags) ++ [.endTag "feed"]

/-- A value that brings nothing but character data: one without the shape of a section, or one in which
the reader finds text and CDATA sections alone. -/
def IsInert (value : String) : Prop :=
  ∀ inner, value.toList = cdataOpen ++ inner ++ cdataClose → IsCharacterData value.toList

theorem isInert_iff (value : String) :
    IsInert value ↔ cdataContent? value.toList = none ∨ IsCharacterData value.toList := by
  simp only [IsInert, ← cdataContent?_eq_some_iff]
  cases cdataContent? value.toList <;> simp

instance (value : String) : Decidable (IsInert value) := decidable_of_iff _ (isInert_iff value).symm

/-- Only a closing mark inside of a section can make a value bring tags. -/
theorem isInert_of_isClosed {value : String} (closed : IsClosed value) : IsInert value := by
  intro inner same
  have readable : (Piece.cdata inner).IsReadable := closed inner same
  have read : tokens ((Piece.cdata inner).write ++ []) = (tokens []).map ([.characters inner] ++ ·) :=
    tokens_write readable fun _ same => nomatch same
  rw [tokens, Option.map_some, List.append_nil] at read
  exact ⟨[.characters inner], same ▸ read, by simp [Token.isCharacters]⟩

theorem write_fieldPieces (field : String × String) : write (fieldPieces field) =
    write [.openTag field.1 []] ++ write (valuePieces field.2.toList) ++ write [.closeTag field.1] := by
  rw [← write_append, ← write_append]
  rfl

/-- The written form of an inert value is character data. -/
theorem exists_data_of_isInert {value : String} (inert : IsInert value) :
    ∃ found, (∀ token ∈ found, token.isCharacters) ∧
      ∀ rest, BeginsTag rest →
        tokens (write (valuePieces value.toList) ++ rest) = (tokens rest).map (found ++ ·) := by
  unfold valuePieces
  split
  · next inner shape =>
    have same := (cdataContent?_eq_some_iff _ inner).1 shape
    have written : write [.cdata inner] = value.toList := by
      rw [same]
      exact List.append_nil _
    obtain ⟨found, read, data⟩ := inert inner same
    rw [written]
    exact ⟨found, data, fun rest tag => tokens_append_of_data read data tag⟩
  · split
    · exact ⟨[], by simp, by simp [write]⟩
    · next more =>
      have readable : (Piece.text value.toList).IsReadable := fun empty => more (by rw [empty]; rfl)
      refine ⟨[.characters value.toList], by simp [Token.isCharacters], fun rest tag => ?_⟩
      have written : write [.text value.toList] = (Piece.text value.toList).write := List.append_nil _
      rw [written]
      exact tokens_write readable fun _ _ => tag

theorem stands_field {field : String × String} (named : isName field.1) (inert : IsInert field.2) :
    Stands (write (fieldPieces field)) (fieldTags field.1) := by
  obtain ⟨found, data, reads⟩ := exists_data_of_isInert inert
  rw [write_fieldPieces]
  exact stands_data named data reads

theorem demands_field {field : String × String} (named : isName field.1) :
    Demands (write (fieldPieces field)) (fieldTags field.1) (IsInert field.2) := by
  cases shape : cdataContent? field.2.toList with
  | none =>
    have inert : IsInert field.2 := (isInert_iff field.2).2 (.inl shape)
    exact (stands_field named inert).demands inert
  | some inner =>
    have same := (cdataContent?_eq_some_iff _ inner).1 shape
    have written : write (valuePieces field.2.toList) = field.2.toList := by
      rw [valuePieces, shape, same]
      exact List.append_nil _
    have ends : EndsSection field.2.toList :=
      .inr (same ▸ List.suffix_append _ _)
    rw [write_fieldPieces, written]
    exact (demands_data named ends).imp fun data _ _ => data

theorem write_fieldsPieces (fields : Fields String) :
    write (fieldsPieces fields) = fields.toList.flatMap fun field => write (fieldPieces field) :=
  write_flatMap _ _

theorem flatMap_fieldTags (fields : Fields String) :
    fields.names.flatMap fieldTags = fields.toList.flatMap fun field => fieldTags field.1 :=
  List.flatMap_map ..

theorem stands_fields {fields : Fields String} (named : ∀ field ∈ fields.toList, isName field.1)
    (inert : ∀ field ∈ fields.toList, IsInert field.2) :
    Stands (write (fieldsPieces fields)) (fields.names.flatMap fieldTags) := by
  rw [write_fieldsPieces, flatMap_fieldTags]
  exact stands_flatMap fun field member => stands_field (named field member) (inert field member)

theorem demands_fields {fields : Fields String} (named : ∀ field ∈ fields.toList, isName field.1) :
    Demands (write (fieldsPieces fields)) (fields.names.flatMap fieldTags)
      (∀ field ∈ fields.toList, IsInert field.2) := by
  rw [write_fieldsPieces, flatMap_fieldTags]
  exact demands_flatMap fun field member => demands_field (named field member)

theorem write_entryPieces (entry : Entry) : write (entryPieces entry) =
    write [.openTag "entry" []] ++ write (fieldsPieces entry) ++ write [.closeTag "entry"] := by
  rw [← write_append, ← write_append]
  rfl

theorem isReadable_entry : (Piece.openTag "entry" []).IsReadable := isReadable_openTag (by decide)

theorem stands_entry {entry : Entry} (named : ∀ field ∈ entry.toList, isName field.1)
    (inert : ∀ field ∈ entry.toList, IsInert field.2) :
    Stands (write (entryPieces entry)) (entryTags entry.names) := by
  rw [write_entryPieces]
  exact (stands_fields named inert).element isReadable_entry

theorem demands_entry {entry : Entry} (named : ∀ field ∈ entry.toList, isName field.1) :
    Demands (write (entryPieces entry)) (entryTags entry.names)
      (∀ field ∈ entry.toList, IsInert field.2) := by
  rw [write_entryPieces]
  exact (demands_fields named).element isReadable_entry

/-- The elements between the tags of the root element. -/
def contentPieces (feed : Feed) : List Piece :=
  fieldsPieces feed.info ++ feed.entries.flatMap entryPieces

/-- The tags between those of the root element. -/
def contentTags (feed : Feed) : List Token :=
  feed.info.names.flatMap fieldTags ++ feed.entries.flatMap fun entry => entryTags entry.names

theorem feedTags_eq (feed : Feed) : feedTags feed.info.names (feed.entries.map Fields.names) =
    .startTag "feed" [("xmlns", nameSpace)] :: contentTags feed ++ [.endTag "feed"] := by
  rw [feedTags, contentTags, List.flatMap_map]

theorem forall_mem_writtenFields {feed : Feed} {holds : String × String → Prop} :
    (∀ field ∈ writtenFields feed, holds field) ↔
      (∀ field ∈ feed.info.toList, holds field) ∧
        ∀ entry ∈ feed.entries, ∀ field ∈ entry.toList, holds field := by
  simp only [writtenFields, List.forall_mem_append, List.forall_mem_flatMap]

theorem stands_content {feed : Feed} (named : ∀ field ∈ writtenFields feed, isName field.1)
    (inert : ∀ field ∈ writtenFields feed, IsInert field.2) :
    Stands (write (contentPieces feed)) (contentTags feed) := by
  rw [forall_mem_writtenFields] at named inert
  rw [contentPieces, write_append, write_flatMap]
  exact (stands_fields named.1 inert.1).append
    (stands_flatMap fun entry member => stands_entry (named.2 entry member) (inert.2 entry member))

theorem demands_content {feed : Feed} (named : ∀ field ∈ writtenFields feed, isName field.1) :
    Demands (write (contentPieces feed)) (contentTags feed)
      (∀ field ∈ writtenFields feed, IsInert field.2) := by
  rw [forall_mem_writtenFields] at named ⊢
  rw [contentPieces, write_append, write_flatMap]
  exact (demands_fields named.1).append
    (demands_flatMap fun entry member => demands_entry (named.2 entry member))

theorem write_pieces (feed : Feed) : write (pieces feed) =
    write [.declaration] ++ (write [.openTag "feed" [("xmlns", nameSpace)]] ++
      write (contentPieces feed) ++ write [.closeTag "feed"]) := by
  rw [← write_append, ← write_append, ← write_append]
  simp [pieces, contentPieces]

theorem isReadable_feed : (Piece.openTag "feed" [("xmlns", nameSpace)]).IsReadable :=
  ⟨by decide, by decide, by decide⟩

theorem reads_declaration : Reads [.declaration] := reads_markup trivial (by simp)

/-- A feed with inert values has the tags that its names call for. -/
theorem documentTags_pieces {feed : Feed} (named : ∀ field ∈ writtenFields feed, isName field.1)
    (inert : ∀ field ∈ writtenFields feed, IsInert field.2) :
    documentTags (write (pieces feed)) =
      some (feedTags feed.info.names (feed.entries.map Fields.names)) := by
  obtain ⟨found, reads, balanced, tags⟩ := stands_content named inert
  have whole := reads_declaration (write [.openTag "feed" [("xmlns", nameSpace)]] ++
    (write (contentPieces feed) ++ (write [.closeTag "feed"] ++ [])))
  rw [reads_openTag isReadable_feed, reads, reads_closeTag isReadable_feed.1, tokens] at whole
  have read : tokens (write (pieces feed)) =
      some (.declaration [("version", "1.0"), ("encoding", "utf-8")] ::
        (.startTag "feed" [("xmlns", nameSpace)] :: found ++ [.endTag "feed"])) := by
    rw [write_pieces]
    simpa [Piece.token] using whole
  rw [feedTags_eq, ← tags]
  exact documentTags_of_balanced balanced read

/-- A feed that has the tags that its names call for has inert values. -/
theorem isInert_of_documentTags {feed : Feed} (named : ∀ field ∈ writtenFields feed, isName field.1)
    (tags : documentTags (write (pieces feed)) =
      some (feedTags feed.info.names (feed.entries.map Fields.names))) :
    ∀ field ∈ writtenFields feed, IsInert field.2 := by
  rw [write_pieces] at tags
  obtain ⟨document, isDocument, tags⟩ := Option.bind_eq_some_iff.1 tags
  obtain ⟨found, read, tags⟩ := Option.map_eq_some_iff.1 tags
  have readWhole := read
  rw [reads_declaration] at read
  obtain ⟨found, readRoot, rfl⟩ := Option.map_eq_some_iff.1 read
  have known := isTag_or_isCharacters_of_readDocument readWhole isDocument
  have root := (demands_content named).element isReadable_feed
  obtain ⟨inside, later, rfl, readRest, _, only⟩ :=
    root [] found (by rwa [List.append_nil])
  rw [tokens] at readRest
  cases readRest
  rw [List.append_nil] at tags known
  -- between the tags of the root as many tags are read as the names call for, so no value adds one
  have count : (inside.filter Token.isTag).length =
      (feedTags feed.info.names (feed.entries.map Fields.names)).length := by
    rw [← tags]
    rfl
  rw [feedTags_eq] at count
  exact only known count

/-- A rendered feed has the tags that its names call for exactly when all its values are inert. -/
theorem documentTags_render_eq_iff {feed : Feed} {text : String}
    (rendered : render none feed = .ok text) :
    documentTags text.toList = some (feedTags feed.info.names (feed.entries.map Fields.names)) ↔
      ∀ field ∈ writtenFields feed, IsInert field.2 := by
  obtain ⟨rfl, named⟩ := isName_of_render rendered
  rw [String.toList_ofList]
  exact ⟨isInert_of_documentTags named, documentTags_pieces named⟩

/-- Of two feeds with the same names, if the second one holds nothing but inert values, then the reader
takes it as a document, and finds the same tags in the first one exactly when its values are inert too. -/
theorem documentTags_eq_iff_isInert {first second : Feed} {text other : String}
    (sameInfo : first.info.names = second.info.names)
    (sameEntries : first.entries.map Fields.names = second.entries.map Fields.names)
    (rendered : render none first = .ok text) (renderedOther : render none second = .ok other)
    (inert : ∀ field ∈ writtenFields second, IsInert field.2) :
    (documentTags other.toList).isSome ∧
      (documentTags text.toList = documentTags other.toList ↔
        ∀ field ∈ writtenFields first, IsInert field.2) := by
  have tags := (documentTags_render_eq_iff renderedOther).2 inert
  rw [tags, ← sameInfo, ← sameEntries]
  exact ⟨rfl, documentTags_render_eq_iff rendered⟩

/-- A feed of plain values. -/
def plainMenu : Feed where
  info := .ofList [("title", "a < b")]
  entries := [.ofList [("content", "Hot"), ("note", "")]]

theorem isInert_plainMenu : ∀ field ∈ writtenFields plainMenu, IsInert field.2 := by decide +kernel

/-- The same feed with two sections in one value, text between them. -/
def sectionsMenu : Feed where
  info := .ofList [("title", "<![CDATA[a]]> &lt; <![CDATA[<b>]]>")]
  entries := [.ofList [("content", "<![CDATA[<p>Hot</p>]]>"), ("note", "]]>")]]

theorem documentTags_sectionsMenu : ∃ text other, render none sectionsMenu = .ok text ∧
    render none plainMenu = .ok other ∧ documentTags text.toList = documentTags other.toList ∧
      (documentTags other.toList).isSome := by
  have inertSections : ∀ field ∈ writtenFields sectionsMenu, IsInert field.2 := by decide +kernel
  obtain ⟨text, rendered⟩ : ∃ text, render none sectionsMenu = .ok text := ⟨_, rfl⟩
  obtain ⟨other, renderedPlain⟩ : ∃ other, render none plainMenu = .ok other := ⟨_, rfl⟩
  have tags :=
    documentTags_eq_iff_isInert (by decide) (by decide) rendered renderedPlain isInert_plainMenu
  exact ⟨text, other, rendered, renderedPlain, tags.2.2 inertSections, tags.1⟩

/-- The same feed with a value that closes its section and goes on with an element. -/
def brokenMenu : Feed where
  info := .ofList [("title", "<![CDATA[]]><b></b><![CDATA[]]>")]
  entries := [.ofList [("content", "Hot"), ("note", "")]]

/-- Not every value leaves the tags as they are. -/
theorem documentTags_not_determined_by_names : ¬∀ (first second : Feed) (text other : String),
    first.info.names = second.info.names →
    first.entries.map Fields.names = second.entries.map Fields.names →
    render none first = .ok text → render none second = .ok other →
    documentTags text.toList = documentTags other.toList := by
  intro fixed
  obtain ⟨text, rendered⟩ : ∃ text, render none brokenMenu = .ok text := ⟨_, rfl⟩
  obtain ⟨other, renderedPlain⟩ : ∃ other, render none plainMenu = .ok other := ⟨_, rfl⟩
  have same := fixed brokenMenu plainMenu text other (by decide) (by decide) rendered renderedPlain
  rw [(documentTags_render_eq_iff renderedPlain).2 isInert_plainMenu] at same
  have inert := (documentTags_render_eq_iff rendered).1 same
  exact absurd inert (by decide +kernel)

end Atom

end PageFeed
