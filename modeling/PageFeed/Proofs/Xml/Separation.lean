import PageFeed.Proofs.Xml.Extent

/-! Texts that are read apart. A reader of a tag never looks beyond the next `<`, since no name holds one
and a value in quotes that does is refused, and a section ends at its first closing mark. So a text that
ends like a section, and behind which a tag follows, is read as it is on its own, and what follows is
read on its own as well. -/

namespace PageFeed.Xml

/-! ## Tags -/

section Stop

variable {p : Char → Bool} {c : Char} (stops : p c = false) (text rest : List Char)

include stops

theorem takeWhile_append_stop : (text ++ c :: rest).takeWhile p = text.takeWhile p := by
  induction text with
  | nil => simp [stops]
  | cons d text ih => by_cases kept : p d <;> simp [kept, ih]

theorem dropWhile_append_stop :
    (text ++ c :: rest).dropWhile p = text.dropWhile p ++ c :: rest := by
  induction text with
  | nil => simp [stops]
  | cons d text ih => by_cases kept : p d <;> simp [kept, ih]

end Stop

/-- A reading with a text put behind what it leaves. -/
def leaving {α : Type} (behind : List Char) (read : Option (α × List Char)) :
    Option (α × List Char) :=
  read.map fun parts => (parts.1, parts.2 ++ behind)

section Tag

variable {text : List Char} (rest : List Char)

theorem readName_append_tag :
    readName (text ++ '<' :: rest) = leaving ('<' :: rest) (readName text) := by
  have stops : isNamePart '<' = false := by decide
  unfold readName
  rw [takeWhile_append_stop stops, dropWhile_append_stop stops]
  split <;> rfl

theorem readValue_append_tag (free : '<' ∉ text) :
    readValue (text ++ '<' :: rest) = leaving ('<' :: rest) (readValue text) := by
  cases text with
  | nil =>
    simp only [List.nil_append, readValue]
    cases rest.dropWhile (· != '<') <;> rfl
  | cons quote text =>
    have goesOn : ('<' != quote) = true := by
      rw [bne_iff_ne]
      rintro rfl
      exact free List.mem_cons_self
    simp only [List.cons_append, readValue]
    cases found : text.dropWhile (· != quote) with
    | nil =>
      -- the value would go beyond the tag, so it would hold the `<`
      have all : text.takeWhile (· != quote) = text := by
        have parts := List.takeWhile_append_dropWhile (p := (· != quote)) (l := text)
        rwa [found, List.append_nil] at parts
      have inside : '<' ∈ (text ++ '<' :: rest).takeWhile (· != quote) := by
        rw [List.takeWhile_append, all, if_pos rfl, List.takeWhile_cons_of_pos (p := (· != quote)) goesOn]
        simp
      have refused : ((text ++ '<' :: rest).takeWhile (· != quote)).contains '<' = true := by
        simpa using inside
      rw [refused]
      simp only [Bool.not_true, Bool.and_false]
      split <;> rfl
    | cons mark behind =>
      have shorter : (text.takeWhile (· != quote)).length ≠ text.length := by
        have count := congrArg List.length
          (List.takeWhile_append_dropWhile (p := (· != quote)) (l := text))
        rw [found, List.length_append, List.length_cons] at count
        omega
      have takes : (text ++ '<' :: rest).takeWhile (· != quote) = text.takeWhile (· != quote) := by
        rw [List.takeWhile_append, if_neg shorter]
      have drops : (text ++ '<' :: rest).dropWhile (· != quote) =
          mark :: (behind ++ '<' :: rest) := by
        rw [List.dropWhile_append, found]
        rfl
      rw [drops, takes]
      dsimp only
      split
      · rw [leaving, Option.map_map]
        rfl
      · rfl

theorem readAttr_append_tag (free : '<' ∉ text) :
    readAttr (text ++ '<' :: rest) = leaving ('<' :: rest) (readAttr text) := by
  unfold readAttr
  rw [readName_append_tag]
  cases named : readName text with
  | none => rfl
  | some parts =>
    obtain ⟨name, behind⟩ := parts
    obtain ⟨taken, rfl, _⟩ := passes_readName named
    match behind with
    | [] => rfl
    | d :: behind =>
      by_cases equals : d = '='
      · subst equals
        have later : '<' ∉ behind := fun member => free (by simp [member])
        simp only [leaving, Option.map_some, List.cons_append]
        rw [readValue_append_tag rest later, leaving, Option.map_map, Option.map_map]
        rfl
      · simp [leaving, equals]

/-- Attributes in front of a tag are read as they are on their own. -/
theorem readAttrs_append_tag (free : '<' ∉ text) :
    readAttrs (text ++ '<' :: rest) = ((readAttrs text).1, (readAttrs text).2 ++ '<' :: rest) := by
  have stops : isBlank '<' = false := by decide
  fun_induction readAttrs text with
  | case1 =>
    rw [List.nil_append, readAttrs]
    simp [stops]
  | case2 c behind blank attr left read ih =>
    have blanks := dropWhile_append_stop stops behind rest
    have inside : '<' ∉ behind.dropWhile isBlank := fun member =>
      free (List.mem_cons_of_mem _ ((List.dropWhile_sublist _).subset member))
    have first : readAttr ((behind ++ '<' :: rest).dropWhile isBlank) =
        some (attr, left ++ '<' :: rest) := by
      rw [blanks, readAttr_append_tag rest inside, read]
      rfl
    obtain ⟨taken, same, _⟩ := passes_readAttr read
    have later := ih fun member => inside (same ▸ List.mem_append_right _ member)
    rw [List.cons_append, readAttrs, if_pos blank]
    split
    · next found =>
      rw [first] at found
      cases found
      rw [later]
      rfl
    · next found =>
      rw [first] at found
      cases found
  | case3 c behind blank read =>
    have blanks := dropWhile_append_stop stops behind rest
    have inside : '<' ∉ behind.dropWhile isBlank := fun member =>
      free (List.mem_cons_of_mem _ ((List.dropWhile_sublist _).subset member))
    have first : readAttr ((behind ++ '<' :: rest).dropWhile isBlank) = none := by
      rw [blanks, readAttr_append_tag rest inside, read]
      rfl
    rw [List.cons_append, readAttrs, if_pos blank]
    split
    · next found =>
      rw [first] at found
      cases found
    · rw [blanks]
  | case4 c behind notBlank => rw [List.cons_append, readAttrs, if_neg notBlank]

theorem readNamed_append_tag (free : '<' ∉ text) : readNamed (text ++ '<' :: rest) =
    (readNamed text).map fun read => (read.1, read.2.1, read.2.2 ++ '<' :: rest) := by
  unfold readNamed
  rw [readName_append_tag]
  cases named : readName text with
  | none => rfl
  | some parts =>
    obtain ⟨name, behind⟩ := parts
    obtain ⟨taken, rfl, _⟩ := passes_readName named
    have later : '<' ∉ behind := fun member => free (List.mem_append_right _ member)
    simp only [leaving, Option.map_some, Option.bind_some, readAttrs_append_tag rest later]
    split <;> rfl

end Tag

/-! ## Tokens -/

theorem readTokens_declaration_append_tag {inside : List Char} (rest : List Char)
    (free : '<' ∉ inside) :
    readTokens ('<' :: '?' :: 'x' :: 'm' :: 'l' :: (inside ++ '<' :: rest)) =
      leaving ('<' :: rest) (readTokens ('<' :: '?' :: 'x' :: 'm' :: 'l' :: inside)) := by
  simp only [readTokens, readAttrs_append_tag rest free]
  generalize readAttrs inside = read
  obtain ⟨attrs, left⟩ := read
  rcases left with _ | ⟨c, _ | ⟨d, left⟩⟩
  · rfl
  · by_cases mark : c = '?' <;> simp [leaving, mark]
  · by_cases mark : c = '?' <;> by_cases closing : d = '>' <;> simp [leaving, mark, closing]

theorem readTokens_endTag_append_tag (inside rest : List Char) :
    readTokens ('<' :: '/' :: (inside ++ '<' :: rest)) =
      leaving ('<' :: rest) (readTokens ('<' :: '/' :: inside)) := by
  have stops : isBlank '<' = false := by decide
  simp only [readTokens, readName_append_tag]
  cases readName inside with
  | none => rfl
  | some parts =>
    obtain ⟨name, behind⟩ := parts
    simp only [leaving, Option.map_some, dropWhile_append_stop stops]
    cases behind.dropWhile isBlank with
    | nil => rfl
    | cons c left => by_cases closing : c = '>' <;> simp [closing]

/-- What begins a start tag: a `<` that begins no declaration, no section and no end tag. -/
structure BeginsStart (inside : List Char) : Prop where
  notDeclaration : ∀ rest, inside ≠ '?' :: 'x' :: 'm' :: 'l' :: rest
  notSection : ∀ rest, inside ≠ '!' :: rest
  notEnd : ∀ rest, inside ≠ '/' :: rest

theorem BeginsStart.append_tag {inside : List Char} (begins : BeginsStart inside) (rest : List Char) :
    BeginsStart (inside ++ '<' :: rest) := by
  obtain ⟨notDeclaration, notSection, notEnd⟩ := begins
  constructor
  · match inside with
    | [] => simp
    | [_] => simp
    | [_, _] => simp
    | [_, _, _] => simp
    | c :: d :: e :: f :: more =>
      intro behind same
      simp only [List.cons_append, List.cons.injEq] at same
      obtain ⟨rfl, rfl, rfl, rfl, _⟩ := same
      exact notDeclaration more rfl
  · match inside with
    | [] => simp
    | c :: more =>
      intro behind same
      exact notSection more (by rw [(List.cons.inj same).1])
  · match inside with
    | [] => simp
    | c :: more =>
      intro behind same
      exact notEnd more (by rw [(List.cons.inj same).1])

theorem readTokens_startTag {inside : List Char} (begins : BeginsStart inside) :
    readTokens ('<' :: inside) = match readNamed inside with
      | some (name, attrs, '>' :: rest) => some ([.startTag name attrs], rest)
      | some (name, attrs, '/' :: '>' :: rest) => some ([.startTag name attrs, .endTag name], rest)
      | _ => none := by
  exact readTokens.eq_4 inside begins.notDeclaration begins.notSection begins.notEnd

theorem readTokens_startTag_append_tag {inside : List Char} (rest : List Char) (free : '<' ∉ inside)
    (begins : BeginsStart inside) : readTokens ('<' :: (inside ++ '<' :: rest)) =
      leaving ('<' :: rest) (readTokens ('<' :: inside)) := by
  rw [readTokens_startTag begins, readTokens_startTag (begins.append_tag rest),
    readNamed_append_tag rest free]
  match readNamed inside with
  | none => rfl
  | some (name, attrs, []) => rfl
  | some (name, attrs, [c]) =>
    by_cases closing : c = '>' <;> by_cases slash : c = '/' <;> simp [leaving, closing, slash]
  | some (name, attrs, c :: d :: left) =>
    by_cases closing : c = '>' 
    · simp [leaving, closing]
    · by_cases slash : c = '/' <;> by_cases closing : d = '>' <;> simp_all [leaving]

/-- What begins with a tag is read as it is on its own in front of another tag, unless it begins with a
section. -/
theorem readTokens_append_tag {inside : List Char} (rest : List Char) (free : '<' ∉ inside)
    (noSection : ∀ more, inside ≠ '!' :: more) :
    readTokens ('<' :: (inside ++ '<' :: rest)) =
      leaving ('<' :: rest) (readTokens ('<' :: inside)) := by
  by_cases declares : ∃ more, inside = '?' :: 'x' :: 'm' :: 'l' :: more
  · obtain ⟨more, rfl⟩ := declares
    exact readTokens_declaration_append_tag rest fun member => free (by simp [member])
  by_cases ends : ∃ more, inside = '/' :: more
  · obtain ⟨more, rfl⟩ := ends
    exact readTokens_endTag_append_tag more rest
  · exact readTokens_startTag_append_tag rest free
      ⟨not_exists.1 declares, noSection, not_exists.1 ends⟩

theorem leaving_leaving {α : Type} (first second : List Char) (read : Option (α × List Char)) :
    leaving second (leaving first read) = leaving (first ++ second) read := by
  cases read <;> simp [leaving]

theorem readTokens_characters {c : Char} (other : c ≠ '<') (text : List Char) :
    readTokens (c :: text) = (readCharacters (c :: text)).map fun characters =>
      ([.characters characters], (c :: text).dropWhile (· != '<')) := by
  rw [readTokens]
  all_goals
    intro inside same
    exact other (List.cons.inj same).1

theorem readTokens_characters_append_tag {c : Char} (other : c ≠ '<') (text rest : List Char) :
    readTokens (c :: text ++ '<' :: rest) = leaving ('<' :: rest) (readTokens (c :: text)) := by
  have stops : (fun d => d != '<') '<' = false := by decide
  have characters : readCharacters (c :: text ++ '<' :: rest) = readCharacters (c :: text) := by
    rw [readCharacters, takeWhile_append_stop (p := (· != '<')) stops, ← readCharacters]
  have dropped := dropWhile_append_stop (p := (· != '<')) stops (c :: text) rest
  rw [List.cons_append] at characters dropped ⊢
  rw [readTokens_characters other, readTokens_characters other, characters, dropped, leaving,
    Option.map_map]
  rfl

/-! ## Sections -/

theorem isPrefixOf?_append {mark text : List Char} (enough : mark.length ≤ text.length)
    (rest : List Char) :
    mark.isPrefixOf? (text ++ rest) = (mark.isPrefixOf? text).map (· ++ rest) := by
  cases found : mark.isPrefixOf? text with
  | some behind =>
    have parts := List.isPrefixOf?_eq_some_iff_append_eq.1 found
    rw [Option.map_some, List.isPrefixOf?_eq_some_iff_append_eq, ← parts, List.append_assoc]
  | none =>
    apply isPrefixOf?_eq_none
    intro here
    obtain ⟨behind, parts⟩ :=
      List.prefix_of_prefix_length_le here (List.prefix_append text rest) enough
    rw [List.isPrefixOf?_eq_some_iff_append_eq.2 parts] at found
    cases found

theorem length_le_of_cutAt {mark text : List Char} {parts : List Char × List Char}
    (more : mark ≠ []) (cut : cutAt mark text = some parts) : mark.length ≤ text.length := by
  obtain ⟨same, _⟩ := append_of_cutAt more cut
  have count := congrArg List.length same
  simp only [List.length_append] at count
  omega

/-- A cut is made at the same place whatever follows. -/
theorem cutAt_append {mark text before behind : List Char} (more : mark ≠ [])
    (cut : cutAt mark text = some (before, behind)) (rest : List Char) :
    cutAt mark (text ++ rest) = some (before, behind ++ rest) := by
  induction text generalizing before with
  | nil => cases cut
  | cons c text ih =>
    have enough := length_le_of_cutAt more cut
    rw [cutAt] at cut
    rw [List.cons_append, cutAt, ← List.cons_append, isPrefixOf?_append enough]
    split at cut
    · next found =>
      cases cut
      rw [found]
      rfl
    · next found =>
      obtain ⟨⟨inner, after⟩, held, same⟩ := Option.map_eq_some_iff.1 cut
      cases same
      rw [found, ih held]
      rfl

/-- No part of an opening mark ends like a section, so what begins a section and ends like one does so
whatever follows. -/
theorem isPrefixOf?_cdataOpen_append {text : List Char} (ends : cdataClose <:+ text)
    (rest : List Char) :
    cdataOpen.isPrefixOf? (text ++ rest) = (cdataOpen.isPrefixOf? text).map (· ++ rest) := by
  by_cases enough : cdataOpen.length ≤ text.length
  · exact isPrefixOf?_append enough rest
  · have shorter : text.length ≤ cdataOpen.length := by omega
    have absent : ¬cdataOpen <+: text := fun here => enough here.length_le
    have absentToo : ¬cdataOpen <+: text ++ rest := by
      intro here
      have part := List.prefix_of_prefix_length_le (List.prefix_append text rest) here shorter
      have member : '>' ∈ cdataOpen := part.subset (ends.subset (by decide))
      exact absurd member (by decide)
    rw [isPrefixOf?_eq_none absent, isPrefixOf?_eq_none absentToo]
    rfl

theorem suffix_of_cdataOpen_append {content : List Char} (ends : cdataClose <:+ cdataOpen ++ content) :
    cdataClose <:+ content := by
  rcases List.suffix_or_suffix_of_suffix ends (List.suffix_append cdataOpen content) with inner | short
  · exact inner
  · simp only [cdataClose, String.reduceToList, List.suffix_cons_iff, List.suffix_nil] at short
    rcases short with rfl | rfl | rfl | rfl
    · exact List.suffix_rfl
    · exact absurd ends (by decide)
    · exact absurd ends (by decide)
    · exact absurd ends (by decide)

theorem readTokens_section_append {inside : List Char} (ends : cdataClose <:+ '<' :: '!' :: inside)
    (rest : List Char) :
    readTokens ('<' :: '!' :: (inside ++ rest)) =
      leaving rest (readTokens ('<' :: '!' :: inside)) := by
  have opened := isPrefixOf?_cdataOpen_append ends rest
  rw [List.cons_append, List.cons_append] at opened
  rw [readTokens, readTokens, opened]
  cases found : cdataOpen.isPrefixOf? ('<' :: '!' :: inside) with
  | none => rfl
  | some content =>
    rw [← List.isPrefixOf?_eq_some_iff_append_eq.1 found] at ends
    obtain ⟨⟨before, behind⟩, cut⟩ := Option.isSome_iff_exists.1
      (isSome_cutAt (by decide) (suffix_of_cdataOpen_append ends).isInfix)
    simp only [Option.map_some, Option.bind_some, cut, cutAt_append (by decide) cut, leaving]

/-! ## Texts that end like a section -/

/-- A text that ends like a section begins with the same tokens whatever tag follows. -/
theorem readTokens_append {text behind : List Char} (more : text ≠ []) (ends : cdataClose <:+ text)
    (tag : BeginsTag behind) : readTokens (text ++ behind) = leaving behind (readTokens text) := by
  cases behind with
  | nil =>
    rw [List.append_nil]
    cases readTokens text <;> simp [leaving]
  | cons d rest =>
    obtain rfl : d = '<' := by simpa [BeginsTag] using tag
    cases text with
    | nil => exact absurd rfl more
    | cons c inside =>
      by_cases other : c ≠ '<'
      · exact readTokens_characters_append_tag other inside rest
      obtain rfl : c = '<' := not_not.1 other
      by_cases sectional : ∃ content, inside = '!' :: content
      · obtain ⟨content, rfl⟩ := sectional
        exact readTokens_section_append ends ('<' :: rest)
      -- a tag is read up to the next `<`, which is in the text or right behind it
      have noSection := not_exists.1 sectional
      have parts := List.takeWhile_append_dropWhile (p := (· != '<')) (l := inside)
      have free : '<' ∉ inside.takeWhile (· != '<') := by
        intro member
        exact absurd (List.all_eq_true.1 List.all_takeWhile _ member) (by decide)
      have head := List.head?_dropWhile_not (· != '<') inside
      generalize inside.takeWhile (· != '<') = first at parts free
      generalize inside.dropWhile (· != '<') = later at parts head
      subst parts
      have noSectionFirst : ∀ content, first ≠ '!' :: content := by
        rintro content rfl
        exact noSection _ rfl
      cases later with
      | nil =>
        rw [List.append_nil]
        exact readTokens_append_tag rest free noSectionFirst
      | cons e later =>
        obtain rfl : e = '<' := by simpa using head
        have whole := readTokens_append_tag (later ++ '<' :: rest) free noSectionFirst
        have alone := readTokens_append_tag later free noSectionFirst
        rw [alone, leaving_leaving]
        simpa only [List.cons_append, List.append_assoc] using whole

theorem tokens_of_readTokens_eq_none {c : Char} {text : List Char}
    (refused : readTokens (c :: text) = none) : tokens (c :: text) = none := by
  rw [tokens]
  split
  · next found =>
    rw [refused] at found
    cases found
  · rfl

/-- A text that ends like a section is read on its own when a tag follows. -/
theorem tokens_append_of_endsSection {text behind : List Char} (ends : EndsSection text)
    (tag : BeginsTag behind) :
    tokens (text ++ behind) =
      (tokens text).bind fun inside => (tokens behind).map (inside ++ ·) := by
  induction size : text.length using Nat.strong_induction_on generalizing text with
  | _ _ ih =>
    match text with
    | [] =>
      rw [List.nil_append, tokens]
      simp
    | c :: more =>
      have closed : cdataClose <:+ c :: more := ends.resolve_left (List.cons_ne_nil _ _)
      have first := readTokens_append (List.cons_ne_nil c more) closed tag
      rw [List.cons_append] at first ⊢
      cases read : readTokens (c :: more) with
      | none =>
        rw [read] at first
        rw [tokens_of_readTokens_eq_none read, tokens_of_readTokens_eq_none first]
        rfl
      | some parts =>
        obtain ⟨found, left⟩ := parts
        rw [read] at first
        -- what the first tokens leave of the text ends like a section again
        obtain ⟨taken, same, extent⟩ := exists_extent read
        have leftEnds : EndsSection left := by
          rw [← List.append_nil left] at extent
          exact extent.endsSection (same ▸ closed)
        have shorter := length_readTokens read
        rw [tokens_of_readTokens read, tokens_of_readTokens first,
          ih _ (by simp only [← size, List.length_cons]; omega) leftEnds rfl]
        cases tokens left <;> cases tokens behind <;> simp

end PageFeed.Xml
