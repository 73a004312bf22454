import PageFeed.Proofs.Xml.Reader

/-! Reading back what is written. Escaped text holds none of the characters that markup is made of,
so it ends where the next tag begins, and a CDATA section ends at its first closing mark. Each piece
is therefore read back as one token, whatever follows it, except that text has to be followed by a
tag. -/

namespace PageFeed.Xml

/-! ## Text -/

/-- Whether a text holds no character that ends text or a value. -/
def isSafe (text : List Char) : Bool := text.all fun c => c != '<' && c != '>' && c != '"'

theorem mem_of_isSafe {text : List Char} (safe : isSafe text) :
    ∀ c ∈ text, c ≠ '<' ∧ c ≠ '>' ∧ c ≠ '"' := by
  intro c member
  have passed := List.all_eq_true.1 safe c member
  simp only [Bool.and_eq_true, bne_iff_ne] at passed
  exact ⟨passed.1.1, passed.1.2, passed.2⟩

theorem mem_escapeChar (source : Char) :
    ∀ c ∈ escapeChar source, c ≠ '<' ∧ c ≠ '>' ∧ c ≠ '"' := by
  unfold escapeChar
  split
  · exact mem_of_isSafe (by decide)
  · exact mem_of_isSafe (by decide)
  · exact mem_of_isSafe (by decide)
  · exact mem_of_isSafe (by decide)
  · exact mem_of_isSafe (by decide)
  · next notLess notGreater _ notQuote =>
    intro c member
    rw [List.mem_singleton.1 member]
    exact ⟨notLess, notGreater, notQuote⟩

/-- Escaped text holds no character that ends text or a value. -/
theorem mem_escape (text : List Char) : ∀ c ∈ escape text, c ≠ '<' ∧ c ≠ '>' ∧ c ≠ '"' := by
  intro c member
  obtain ⟨source, _, written⟩ := List.mem_flatMap.1 member
  exact mem_escapeChar source c written

theorem decode_cons {c : Char} (other : c ≠ '&') (rest : List Char) :
    decode (c :: rest) = (decode rest).map (c :: ·) := by
  rw [decode]
  all_goals
    intros
    simp_all

/-- Decoding undoes escaping. -/
theorem decode_escape (text : List Char) : decode (escape text) = some text := by
  induction text with
  | nil => rfl
  | cons c rest ih =>
    have written : escape (c :: rest) = escapeChar c ++ escape rest := rfl
    rw [written]
    unfold escapeChar
    split
    · simp [decode, ih]
    · simp [decode, ih]
    · simp [decode, ih]
    · simp [decode, ih]
    · simp [decode, ih]
    · next notAmp _ _ _ _ =>
      rw [List.singleton_append, decode_cons notAmp, ih]
      rfl

theorem escape_ne_nil {text : List Char} (more : text ≠ []) : escape text ≠ [] := by
  obtain ⟨c, rest, rfl⟩ := List.exists_cons_of_ne_nil more
  have written : escape (c :: rest) = escapeChar c ++ escape rest := rfl
  rw [written]
  apply List.append_ne_nil_of_left_ne_nil
  unfold escapeChar
  split <;> simp

/-! ## Cutting -/

theorem isPrefixOf?_eq_none {mark text : List Char} (absent : ¬mark <+: text) :
    mark.isPrefixOf? text = none := by
  cases found : mark.isPrefixOf? text with
  | none => rfl
  | some rest =>
    exact absurd ⟨rest, List.isPrefixOf?_eq_some_iff_append_eq.1 found⟩ absent

theorem cutAt_eq_none {mark text : List Char} (absent : ¬mark <:+: text) :
    cutAt mark text = none := by
  induction text with
  | nil => rfl
  | cons c rest ih =>
    have notHere : mark.isPrefixOf? (c :: rest) = none :=
      isPrefixOf?_eq_none fun here => absent here.isInfix
    have notLater : ¬mark <:+: rest := by
      intro later
      exact absent (later.trans (List.suffix_cons c rest).isInfix)
    rw [cutAt, notHere, ih notLater]
    rfl

/-- A section ends at the closing mark behind its content, even when the content ends in a bracket. -/
theorem cutAt_cdataClose {content : List Char} (absent : ¬cdataClose <:+: content)
    (rest : List Char) :
    cutAt cdataClose (content ++ cdataClose ++ rest) = some (content, rest) := by
  induction content with
  | nil => rfl
  | cons c content ih =>
    have notLater : ¬cdataClose <:+: content := by
      intro later
      exact absent (later.trans (List.suffix_cons c content).isInfix)
    have notHere : cdataClose.isPrefixOf? (c :: (content ++ cdataClose ++ rest)) = none := by
      apply isPrefixOf?_eq_none
      intro here
      match content with
      | [] => simp [cdataClose] at here
      | [d] => simp [cdataClose] at here
      | d :: e :: more =>
        apply absent
        have start : cdataClose <+: c :: d :: e :: more := by
          simpa [cdataClose] using here
        exact start.isInfix
    rw [List.cons_append, List.cons_append, cutAt, notHere, ih notLater]
    rfl

/-! ## Names and tags -/

/-- A text that begins with a character outside of names. -/
def EndsName (text : List Char) : Prop := text.head?.all (!isNamePart ·)

theorem endsName_cons {c : Char} (other : isNamePart c = false) (rest : List Char) :
    EndsName (c :: rest) := by
  simp [EndsName, other]

theorem isNamePart_of_isName {name : String} (named : isName name) :
    ∀ c ∈ name.toList, isNamePart c := by
  unfold isName at named
  split at named
  · next empty => simp [empty]
  · next first rest text =>
    rw [Bool.and_eq_true, List.all_eq_true] at named
    intro c member
    rw [text, List.mem_cons] at member
    rcases member with rfl | member
    · simp [isNamePart, named.1]
    · exact named.2 c member

theorem exists_start_of_isName {name : String} (named : isName name) :
    ∃ c more, name.toList = c :: more ∧ isNameStart c := by
  unfold isName at named
  split at named
  · cases named
  · next c more text =>
    rw [Bool.and_eq_true] at named
    exact ⟨c, more, text, named.1⟩

theorem readName_append {name : String} (named : isName name) {rest : List Char}
    (ends : EndsName rest) : readName (name.toList ++ rest) = some (name, rest) := by
  have parts := isNamePart_of_isName named
  have before : (name.toList ++ rest).takeWhile isNamePart = name.toList := by
    rw [List.takeWhile_append_of_pos parts]
    cases rest with
    | nil => simp
    | cons c rest => simp_all [EndsName]
  have behind : (name.toList ++ rest).dropWhile isNamePart = rest := by
    rw [List.dropWhile_append_of_pos parts]
    cases rest with
    | nil => rfl
    | cons c rest => simp_all [EndsName]
  rw [readName, before, behind, String.ofList_toList, if_pos named]

theorem not_isBlank_of_isNameStart {c : Char} (start : isNameStart c) : isBlank c = false := by
  cases blank : isBlank c with
  | false => rfl
  | true =>
    simp only [isBlank, Bool.or_eq_true, beq_iff_eq] at blank
    rcases blank with ((rfl | rfl) | rfl) | rfl <;> revert start <;> decide

theorem dropWhile_isBlank_name {name : String} (named : isName name) (rest : List Char) :
    (name.toList ++ rest).dropWhile isBlank = name.toList ++ rest := by
  obtain ⟨c, more, text, start⟩ := exists_start_of_isName named
  rw [text, List.cons_append, List.dropWhile_cons_of_neg]
  simp [not_isBlank_of_isNameStart start]

theorem readValue_escape (value : String) (rest : List Char) :
    readValue ('"' :: (escape value.toList ++ '"' :: rest)) = some (value, rest) := by
  have free : ∀ c ∈ escape value.toList, (c != '"') = true := by
    intro c member
    simpa using (mem_escape _ c member).2.2
  have before : (escape value.toList ++ '"' :: rest).takeWhile (· != '"') = escape value.toList := by
    rw [List.takeWhile_append_of_pos free]
    simp
  have behind : (escape value.toList ++ '"' :: rest).dropWhile (· != '"') = '"' :: rest := by
    rw [List.dropWhile_append_of_pos free]
    simp
  have noTag : '<' ∉ escape value.toList := by
    intro member
    exact (mem_escape _ _ member).1 rfl
  rw [readValue]
  simp [before, behind, noTag, decode_escape]

theorem readAttr_append {attr : String × String} (named : isName attr.1) (rest : List Char) :
    readAttr (attr.1.toList ++ '=' :: '"' :: (escape attr.2.toList ++ '"' :: rest)) =
      some (attr, rest) := by
  rw [readAttr, readName_append named (endsName_cons (by decide) _)]
  simp [readValue_escape]

/-- A text that does not begin with a blank. -/
def EndsBlanks (text : List Char) : Prop := text.head?.all (!isBlank ·)

theorem endsBlanks_cons {c : Char} (other : isBlank c = false) (rest : List Char) :
    EndsBlanks (c :: rest) := by
  simp [EndsBlanks, other]

theorem readAttrs_of_endsBlanks {rest : List Char} (ends : EndsBlanks rest) :
    readAttrs rest = ([], rest) := by
  unfold readAttrs
  split
  · rfl
  · next c behind =>
    have notBlank : ¬isBlank c := by simpa [EndsBlanks] using ends
    rw [if_neg notBlank]

theorem readAttrs_writeAttributes {attrs : Attributes} (named : ∀ attr ∈ attrs, isName attr.1)
    {rest : List Char} (ends : EndsBlanks rest) :
    readAttrs (writeAttributes attrs ++ rest) = (attrs, rest) := by
  induction attrs with
  | nil => exact readAttrs_of_endsBlanks ends
  | cons attr attrs ih =>
    have later := ih fun other member => named other (List.mem_cons_of_mem _ member)
    have head := named attr List.mem_cons_self
    have written : writeAttributes (attr :: attrs) ++ rest =
        ' ' :: (attr.1.toList ++ '=' :: '"' :: (escape attr.2.toList ++ '"' ::
          (writeAttributes attrs ++ rest))) := by
      simp [writeAttributes]
    have first : readAttr ((attr.1.toList ++ '=' :: '"' :: (escape attr.2.toList ++ '"' ::
        (writeAttributes attrs ++ rest))).dropWhile isBlank) =
          some (attr, writeAttributes attrs ++ rest) := by
      rw [dropWhile_isBlank_name head, readAttr_append head]
    rw [written, readAttrs, if_pos (by decide)]
    split
    · next found =>
      rw [first] at found
      cases found
      rw [later]
      rfl
    · next found =>
      rw [first] at found
      cases found

theorem endsName_writeAttributes (attrs : Attributes) {rest : List Char} (ends : EndsName rest) :
    EndsName (writeAttributes attrs ++ rest) := by
  cases attrs with
  | nil => exact ends
  | cons attr attrs => exact endsName_cons (by decide) _

/-! ## Pieces -/

/-- The token that a piece is read back as. -/
def Piece.token : Piece → Token
  | declaration => .declaration [("version", "1.0"), ("encoding", "utf-8")]
  | openTag name attrs => .startTag name attrs
  | closeTag name => .endTag name
  | text content => .characters content
  | cdata content => .characters content

/-- Pieces that can be read back: names of tags and attributes are names, no attribute is given
twice, text is not empty, and no section holds its own closing mark. -/
def Piece.IsReadable : Piece → Prop
  | declaration => True
  | openTag name attrs =>
    isName name ∧ (∀ attr ∈ attrs, isName attr.1) ∧ (attrs.map Prod.fst).Nodup
  | closeTag name => isName name
  | text content => content ≠ []
  | cdata content => ¬cdataClose <:+: content

theorem isReadable_openTag {name : String} (named : isName name) :
    (Piece.openTag name []).IsReadable :=
  ⟨named, by simp, List.nodup_nil⟩

theorem readTokens_declaration (rest : List Char) :
    readTokens (Piece.declaration.write ++ rest) = some ([Piece.declaration.token], rest) := by
  have attrs : readAttrs (writeAttributes [("version", "1.0"), ("encoding", "utf-8")] ++
      '?' :: '>' :: rest) = ([("version", "1.0"), ("encoding", "utf-8")], '?' :: '>' :: rest) :=
    readAttrs_writeAttributes (by decide) (endsBlanks_cons (by decide) _)
  have written : Piece.declaration.write ++ rest = '<' :: '?' :: 'x' :: 'm' :: 'l' ::
      (writeAttributes [("version", "1.0"), ("encoding", "utf-8")] ++ '?' :: '>' :: rest) := rfl
  rw [written, readTokens]
  simp only [attrs, Piece.token]

theorem readTokens_openTag {name : String} {attrs : Attributes}
    (readable : (Piece.openTag name attrs).IsReadable) (rest : List Char) :
    readTokens ((Piece.openTag name attrs).write ++ rest) =
      some ([.startTag name attrs], rest) := by
  obtain ⟨named, attrsNamed, distinct⟩ := readable
  have written : (Piece.openTag name attrs).write ++ rest =
      '<' :: (name.toList ++ (writeAttributes attrs ++ '>' :: rest)) := by
    unfold Piece.write
    simp only [List.cons_append, List.append_assoc, List.nil_append]
  have first := readName_append named
    (endsName_writeAttributes attrs (endsName_cons (by decide : isNamePart '>' = false) rest))
  have second := readAttrs_writeAttributes attrsNamed
    (endsBlanks_cons (by decide : isBlank '>' = false) rest)
  have whole : readNamed (name.toList ++ (writeAttributes attrs ++ '>' :: rest)) =
      some (name, attrs, '>' :: rest) := by
    simp only [readNamed, first, Option.bind_some, second, if_pos distinct]
  obtain ⟨c, more, text, start⟩ := exists_start_of_isName named
  rw [text, List.cons_append] at whole
  rw [written, text, List.cons_append, readTokens]
  · rw [whole]
    rfl
  all_goals
    intro inside same
    rw [(List.cons.inj same).1] at start
    exact absurd start (by decide)

theorem readTokens_closeTag {name : String} (named : isName name) (rest : List Char) :
    readTokens ((Piece.closeTag name).write ++ rest) = some ([.endTag name], rest) := by
  have written : (Piece.closeTag name).write ++ rest = '<' :: '/' :: (name.toList ++ '>' :: rest) := by
    unfold Piece.write
    simp only [List.cons_append, List.append_assoc, List.nil_append]
  have first := readName_append named (endsName_cons (by decide : isNamePart '>' = false) rest)
  rw [written, readTokens, first]
  simp [isBlank]

theorem readTokens_cdata {content : List Char} (closed : ¬cdataClose <:+: content)
    (rest : List Char) :
    readTokens ((Piece.cdata content).write ++ rest) = some ([.characters content], rest) := by
  have written : (Piece.cdata content).write ++ rest =
      '<' :: '!' :: (cdataOpen.drop 2 ++ (content ++ cdataClose ++ rest)) := by
    unfold Piece.write
    simp only [List.append_assoc]
    rfl
  have opened : cdataOpen.isPrefixOf? ('<' :: '!' :: (cdataOpen.drop 2 ++
      (content ++ cdataClose ++ rest))) = some (content ++ cdataClose ++ rest) :=
    List.isPrefixOf?_eq_some_iff_append_eq.2 rfl
  rw [written, readTokens, opened, Option.bind_some, cutAt_cdataClose closed]
  rfl

/-- A text that is empty or begins with a tag. -/
def BeginsTag (text : List Char) : Prop := text.head?.all (· == '<')

theorem BeginsTag.append {text behind : List Char} (begins : BeginsTag text)
    (tag : BeginsTag behind) : BeginsTag (text ++ behind) := by
  cases text with
  | nil => exact tag
  | cons c text => exact begins

theorem BeginsTag.of_append {text behind : List Char} (begins : BeginsTag (text ++ behind)) :
    BeginsTag text := by
  cases text with
  | nil => rfl
  | cons c text => exact begins

/-- Text without markup is read up to the next tag. -/
theorem readTokens_plain {written content : List Char} (more : written ≠ []) (noTag : '<' ∉ written)
    (closed : ¬cdataClose <:+: written) (decoded : decode written = some content)
    {rest : List Char} (tag : BeginsTag rest) :
    readTokens (written ++ rest) = some ([.characters content], rest) := by
  have free : ∀ c ∈ written, (c != '<') = true := by
    intro c member
    rw [bne_iff_ne]
    rintro rfl
    exact noTag member
  have before : (written ++ rest).takeWhile (· != '<') = written := by
    rw [List.takeWhile_append_of_pos free]
    cases rest with
    | nil => simp
    | cons c rest => simp_all [BeginsTag]
  have behind : (written ++ rest).dropWhile (· != '<') = rest := by
    rw [List.dropWhile_append_of_pos free]
    cases rest with
    | nil => rfl
    | cons c rest => simp_all [BeginsTag]
  have read : readCharacters (written ++ rest) = some content := by
    rw [readCharacters, before, cutAt_eq_none closed, decoded]
    rfl
  obtain ⟨c, later, text⟩ := List.exists_cons_of_ne_nil more
  have other : c ≠ '<' := by
    rintro rfl
    exact noTag (text ▸ List.mem_cons_self)
  rw [readTokens, read, behind]
  · rfl
  all_goals
    rw [text]
    intro inside same
    exact other (List.cons.inj same).1

theorem readTokens_text {content : List Char} (more : content ≠ []) {rest : List Char}
    (tag : BeginsTag rest) :
    readTokens ((Piece.text content).write ++ rest) = some ([.characters content], rest) := by
  have noTag : '<' ∉ escape content := fun member => (mem_escape _ _ member).1 rfl
  have unmarked : ¬cdataClose <:+: escape content := by
    intro held
    have member : '>' ∈ escape content := held.subset (by decide)
    exact (mem_escape _ _ member).2.1 rfl
  exact readTokens_plain (escape_ne_nil more) noTag unmarked (decode_escape content) tag

/-! ## Documents -/

theorem tokens_of_readTokens {c : Char} {behind rest : List Char} {first : List Token}
    (read : readTokens (c :: behind) = some (first, rest)) :
    tokens (c :: behind) = (tokens rest).map (first ++ ·) := by
  rw [tokens]
  split
  · next found =>
    rw [read] at found
    cases found
    rfl
  · next found =>
    rw [read] at found
    cases found

theorem map_append_map_append {α : Type} (first second : List α) (found : Option (List α)) :
    (found.map (second ++ ·)).map (first ++ ·) = found.map (first ++ second ++ ·) := by
  cases found <;> simp

/-- Pieces that are read back as their tokens, whatever follows them. -/
def Reads (pieces : List Piece) : Prop :=
  ∀ rest, tokens (write pieces ++ rest) = (tokens rest).map (pieces.map Piece.token ++ ·)

theorem Piece.write_cons (piece : Piece) (readable : piece.IsReadable) :
    ∃ c behind, piece.write = c :: behind ∧ ((∀ content, piece ≠ .text content) → c = '<') := by
  cases piece with
  | declaration => exact ⟨_, _, rfl, fun _ => rfl⟩
  | openTag name attrs => exact ⟨_, _, rfl, fun _ => rfl⟩
  | closeTag name => exact ⟨_, _, rfl, fun _ => rfl⟩
  | text content =>
    obtain ⟨c, behind, written⟩ := List.exists_cons_of_ne_nil (escape_ne_nil readable)
    exact ⟨c, behind, written, fun markup => absurd rfl (markup content)⟩
  | cdata content => exact ⟨_, _, rfl, fun _ => rfl⟩

/-- A piece is read back as its token; text needs a tag behind it. -/
theorem readTokens_write {piece : Piece} (readable : piece.IsReadable) {rest : List Char}
    (tag : ∀ content, piece = .text content → BeginsTag rest) :
    readTokens (piece.write ++ rest) = some ([piece.token], rest) := by
  cases piece with
  | declaration => exact readTokens_declaration rest
  | openTag name attrs => exact readTokens_openTag readable rest
  | closeTag name => exact readTokens_closeTag readable rest
  | text content => exact readTokens_text readable (tag content rfl)
  | cdata content => exact readTokens_cdata readable rest

theorem tokens_write {piece : Piece} (readable : piece.IsReadable) {rest : List Char}
    (tag : ∀ content, piece = .text content → BeginsTag rest) :
    tokens (piece.write ++ rest) = (tokens rest).map (piece.token :: ·) := by
  have read := readTokens_write readable tag
  obtain ⟨c, behind, written, _⟩ := piece.write_cons readable
  rw [written, List.cons_append] at read ⊢
  exact tokens_of_readTokens read

theorem reads_nil : Reads [] := by
  intro rest
  simp [write]

theorem Reads.append {first second : List Piece} (reads : Reads first) (later : Reads second) :
    Reads (first ++ second) := by
  intro rest
  have written : write (first ++ second) ++ rest = write first ++ (write second ++ rest) := by
    simp [write]
  rw [written, reads, later, map_append_map_append, List.map_append]

theorem reads_flatMap {α : Type} {pieces : α → List Piece} {items : List α}
    (reads : ∀ item ∈ items, Reads (pieces item)) : Reads (items.flatMap pieces) := by
  induction items with
  | nil => exact reads_nil
  | cons item items ih =>
    rw [List.flatMap_cons]
    apply (reads item List.mem_cons_self).append
    exact ih fun other member => reads other (List.mem_cons_of_mem _ member)

theorem reads_markup {piece : Piece} (readable : piece.IsReadable)
    (markup : ∀ content, piece ≠ .text content) : Reads [piece] := by
  intro rest
  have written : write [piece] = piece.write := by simp [write]
  rw [written]
  exact tokens_write readable fun content same => absurd same (markup content)

theorem reads_text {content : List Char} (more : content ≠ []) {piece : Piece}
    (readable : piece.IsReadable) (markup : ∀ content, piece ≠ .text content) :
    Reads [.text content, piece] := by
  intro rest
  have written : write [.text content, piece] ++ rest =
      (Piece.text content).write ++ (piece.write ++ rest) := by
    simp [write]
  have tag : BeginsTag (piece.write ++ rest) := by
    obtain ⟨c, behind, start, isTag⟩ := piece.write_cons readable
    simp [BeginsTag, start, isTag markup]
  have textReadable : (Piece.text content).IsReadable := more
  rw [written, tokens_write textReadable fun _ _ => tag,
    tokens_write readable fun content same => absurd same (markup content), Option.map_map]
  rfl

/-! ## Nodes -/

/-- Tokens that put nodes behind those read so far in an open element. -/
def Builds (tokens : List Token) (nodes : List Node) : Prop :=
  ∀ reading : Reading, tokens.foldlM Reading.take reading =
    some { reading with nodes := nodes.reverse ++ reading.nodes }

theorem builds_nil : Builds [] [] := fun _ => rfl

theorem Builds.append {first second : List Token} {before behind : List Node}
    (builds : Builds first before) (later : Builds second behind) :
    Builds (first ++ second) (before ++ behind) := by
  intro reading
  rw [List.foldlM_append, builds]
  change second.foldlM Reading.take _ = _
  rw [later]
  simp

theorem builds_flatMap {α : Type} {tokens : α → List Token} {node : α → Node} {items : List α}
    (builds : ∀ item ∈ items, Builds (tokens item) [node item]) :
    Builds (items.flatMap tokens) (items.map node) := by
  induction items with
  | nil => exact builds_nil
  | cons item items ih =>
    rw [List.flatMap_cons, List.map_cons]
    apply (builds item List.mem_cons_self).append
    exact ih fun other member => builds other (List.mem_cons_of_mem _ member)

/-- An element is built when what stands between its tags builds its children. -/
theorem builds_element (name : String) (attrs : Attributes) {inside : List Token}
    {children : List Node}
    (builds : ∀ opened, opened ≠ [] → inside.foldlM Reading.take ⟨[], opened⟩ =
      some ⟨children.reverse, opened⟩) :
    Builds (.startTag name attrs :: inside ++ [.endTag name]) [.element name attrs children] := by
  intro reading
  rw [List.cons_append, List.foldlM_cons]
  change (inside ++ [Token.endTag name]).foldlM Reading.take
    ⟨[], (name, attrs, reading.nodes) :: reading.opened⟩ = _
  rw [List.foldlM_append, builds _ (List.cons_ne_nil _ _)]
  simp [Reading.take]

theorem readDocument_of_builds {text : List Char} {attrs given : Attributes} {rest : List Token}
    {name : String} {children : List Node} (found : tokens text = some (.declaration attrs :: rest))
    (builds : Builds rest [.element name given children]) :
    readDocument text = some ⟨attrs, .element name given children⟩ := by
  have built := builds {}
  simp only [List.reverse_singleton, List.append_nil] at built
  simp only [readDocument, found, built]

/-- The nodes of a text that stands alone in its element; an empty text is none. -/
def textNodes (text : List Char) : List Node := if text.isEmpty then [] else [.characters text]

theorem take_characters (text : List Char) {opened : List (String × Attributes × List Node)}
    (inside : opened ≠ []) :
    Reading.take ⟨[], opened⟩ (.characters text) = some ⟨(textNodes text).reverse, opened⟩ := by
  have within : opened.isEmpty = false := by simpa using inside
  cases text <;> simp [Reading.take, within, addCharacters, textNodes]

end PageFeed.Xml
