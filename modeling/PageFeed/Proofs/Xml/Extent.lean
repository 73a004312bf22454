import PageFeed.Proofs.Xml.ReadBack

/-! How much of a text a token takes. A tag holds no second `<`, a section goes up to its first
closing mark, and text goes up to the next tag. Character data is therefore read the same in front of
every tag, and no token reaches beyond the end of a text that ends like a section when a tag follows:
what stands in it is read on its own. -/

namespace PageFeed.Xml

/-! ## Tags -/

/-- A reader goes on from a text to the rest of it without passing the beginning of a tag. -/
def Passes (text rest : List Char) : Prop := ∃ taken, text = taken ++ rest ∧ '<' ∉ taken

theorem Passes.refl (text : List Char) : Passes text text := ⟨[], rfl, List.not_mem_nil⟩

theorem Passes.trans {text middle rest : List Char} (first : Passes text middle)
    (second : Passes middle rest) : Passes text rest := by
  obtain ⟨before, rfl, free⟩ := first
  obtain ⟨behind, rfl, freeToo⟩ := second
  exact ⟨before ++ behind, (List.append_assoc _ _ _).symm, by simp [free, freeToo]⟩

theorem passes_cons {c : Char} (other : c ≠ '<') (rest : List Char) : Passes (c :: rest) rest :=
  ⟨[c], rfl, by simpa using other.symm⟩

theorem passes_dropWhile {drop : Char → Bool} (stops : drop '<' = false) (text : List Char) :
    Passes text (text.dropWhile drop) := by
  refine ⟨text.takeWhile drop, List.takeWhile_append_dropWhile.symm, fun member => ?_⟩
  rw [List.all_eq_true.1 List.all_takeWhile _ member] at stops
  cases stops

theorem passes_readName {text rest : List Char} {name : String}
    (read : readName text = some (name, rest)) : Passes text rest := by
  unfold readName at read
  split at read
  · cases read
    exact passes_dropWhile (by decide) text
  · cases read

theorem passes_readValue {text rest : List Char} {value : String}
    (read : readValue text = some (value, rest)) : Passes text rest := by
  unfold readValue at read
  split at read
  · cases read
  · next quote text =>
    split at read
    · cases read
    · next mark behind found =>
      split at read
      · next plain =>
        obtain ⟨_, _, same⟩ := Option.map_eq_some_iff.1 read
        cases same
        simp only [Bool.and_eq_true, Bool.or_eq_true, beq_iff_eq, Bool.not_eq_true',
          List.contains_eq_mem, decide_eq_false_iff_not] at plain
        have other : quote ≠ '<' := by
          rintro rfl
          rcases plain.1 with quoted | quoted <;> exact absurd quoted (by decide)
        have same : mark = quote := by
          have head := List.head?_dropWhile_not (· != quote) text
          rw [found] at head
          simpa using head
        have inside : Passes text (mark :: rest) :=
          ⟨text.takeWhile (· != quote), by rw [← found, List.takeWhile_append_dropWhile], plain.2⟩
        exact (passes_cons other text).trans (inside.trans (passes_cons (same ▸ other) rest))
      · cases read

theorem passes_readAttr {text rest : List Char} {attr : String × String}
    (read : readAttr text = some (attr, rest)) : Passes text rest := by
  unfold readAttr at read
  split at read
  · next name behind found =>
    obtain ⟨⟨value, after⟩, held, same⟩ := Option.map_eq_some_iff.1 read
    cases same
    exact (passes_readName found).trans ((passes_cons (by decide) _).trans (passes_readValue held))
  · cases read

theorem passes_readAttrs (text : List Char) : Passes text (readAttrs text).2 := by
  fun_induction readAttrs text with
  | case1 => exact .refl []
  | case2 c behind blank attr rest read ih =>
    have other : c ≠ '<' := by
      rintro rfl
      exact absurd blank (by decide)
    have blanks : Passes behind (behind.dropWhile isBlank) := passes_dropWhile (by decide) behind
    exact (passes_cons other behind).trans (blanks.trans ((passes_readAttr read).trans ih))
  | case3 c behind blank read =>
    have other : c ≠ '<' := by
      rintro rfl
      exact absurd blank (by decide)
    exact (passes_cons other behind).trans (passes_dropWhile (by decide) behind)
  | case4 => exact .refl _

theorem passes_readNamed {text rest : List Char} {name : String} {attrs : Attributes}
    (read : readNamed text = some (name, attrs, rest)) : Passes text rest := by
  obtain ⟨⟨word, behind⟩, found, held⟩ := Option.bind_eq_some_iff.1 read
  split at held
  · obtain ⟨_, same⟩ := Prod.mk.inj (Option.some.inj held)
    have attrs := passes_readAttrs behind
    rw [same] at attrs
    exact (passes_readName found).trans attrs
  · cases held

/-! ## Tokens -/

/-- Whether a token is a stretch of character data. -/
def Token.isCharacters : Token → Bool
  | characters _ => true
  | _ => false

/-- What a reader takes for its next tokens: a tag, a section, or text up to a tag. -/
inductive Extent : (taken : List Char) → (found : List Token) → (rest : List Char) → Prop
  | tag {inside rest : List Char} {found : List Token} (free : '<' ∉ inside) (token : Token)
      (isTag : token ∈ found ∧ token.isCharacters = false) :
      Extent ('<' :: inside ++ ['>']) found rest
  | cdata {content rest : List Char} (closed : ¬cdataClose <:+: content) :
      Extent (cdataOpen ++ content ++ cdataClose) [.characters content] rest
  | text {written content rest : List Char} (more : written ≠ []) (free : '<' ∉ written)
      (closed : ¬cdataClose <:+: written) (decoded : decode written = some content)
      (tag : BeginsTag rest) : Extent written [.characters content] rest

theorem exists_extent_tag {text rest : List Char} {found : List Token}
    (passes : Passes text ('>' :: rest)) (token : Token)
    (isTag : token ∈ found ∧ token.isCharacters = false) :
    ∃ taken, '<' :: text = taken ++ rest ∧ Extent taken found rest := by
  obtain ⟨inside, rfl, free⟩ := passes
  exact ⟨'<' :: inside ++ ['>'], by simp, .tag free token isTag⟩

/-- A cut is made at the first mark. -/
theorem append_of_cutAt {mark text before behind : List Char} (more : mark ≠ [])
    (cut : cutAt mark text = some (before, behind)) :
    text = before ++ mark ++ behind ∧ ¬mark <:+: before := by
  induction text generalizing before with
  | nil => cases cut
  | cons c rest ih =>
    rw [cutAt] at cut
    split at cut
    · next found =>
      cases cut
      exact ⟨(List.isPrefixOf?_eq_some_iff_append_eq.1 found).symm, by simpa using more⟩
    · next notHere =>
      obtain ⟨⟨inner, after⟩, held, same⟩ := Option.map_eq_some_iff.1 cut
      cases same
      obtain ⟨parts, absent⟩ := ih held
      refine ⟨by rw [parts]; rfl, fun infixed => ?_⟩
      rcases List.infix_cons_iff.1 infixed with here | later
      · have start : mark <+: c :: rest := by
          rw [parts, List.append_assoc]
          exact here.trans (List.prefix_append _ _)
        obtain ⟨tail, same⟩ := start
        rw [List.isPrefixOf?_eq_some_iff_append_eq.2 same] at notHere
        cases notHere
      · exact absent later

theorem isSome_cutAt {mark text : List Char} (more : mark ≠ []) (held : mark <:+: text) :
    (cutAt mark text).isSome := by
  induction text with
  | nil => exact absurd (List.infix_nil.1 held) more
  | cons c rest ih =>
    rw [cutAt]
    split
    · rfl
    · next notHere =>
      rcases List.infix_cons_iff.1 held with ⟨tail, here⟩ | later
      · rw [List.isPrefixOf?_eq_some_iff_append_eq.2 here] at notHere
        cases notHere
      · rw [Option.isSome_map]
        exact ih later

/-- Every reading of tokens takes a tag, a section or a stretch of text. -/
theorem exists_extent {c : Char} {behind rest : List Char} {found : List Token}
    (read : readTokens (c :: behind) = some (found, rest)) :
    ∃ taken, c :: behind = taken ++ rest ∧ Extent taken found rest := by
  unfold readTokens at read
  split at read
  · next inside same =>
    cases same
    have passes := passes_readAttrs inside
    split at read
    · next attrs after same =>
      cases read
      rw [same] at passes
      have letters : Passes ('?' :: 'x' :: 'm' :: 'l' :: inside) inside :=
        ⟨['?', 'x', 'm', 'l'], rfl, by decide⟩
      exact exists_extent_tag (letters.trans (passes.trans (passes_cons (by decide) _)))
        (.declaration attrs) ⟨List.mem_singleton_self _, rfl⟩
    · cases read
  · next same =>
    cases same
    obtain ⟨content, opened, read⟩ := Option.bind_eq_some_iff.1 read
    obtain ⟨⟨before, after⟩, cut, same⟩ := Option.map_eq_some_iff.1 read
    cases same
    obtain ⟨parts, closed⟩ := append_of_cutAt (by decide) cut
    refine ⟨cdataOpen ++ before ++ cdataClose, ?_, .cdata closed⟩
    rw [← List.isPrefixOf?_eq_some_iff_append_eq.1 opened, parts]
    simp only [List.append_assoc]
  · next inside same =>
    cases same
    split at read
    · next name after found =>
      have blanks : Passes after (after.dropWhile isBlank) := passes_dropWhile (by decide) after
      split at read
      · next last dropped =>
        cases read
        rw [dropped] at blanks
        have passes := (passes_readName found).trans blanks
        exact exists_extent_tag ((passes_cons (by decide) inside).trans passes) (.endTag name)
          ⟨List.mem_singleton_self _, rfl⟩
      · cases read
    · cases read
  · next inside _ _ _ same =>
    cases same
    split at read
    · next name attrs after found =>
      cases read
      exact exists_extent_tag (passes_readNamed found) (.startTag name attrs)
        ⟨List.mem_singleton_self _, rfl⟩
    · next name attrs after found =>
      cases read
      have passes := (passes_readNamed found).trans (passes_cons (by decide) _)
      exact exists_extent_tag passes (.startTag name attrs) ⟨List.mem_cons_self, rfl⟩
    · cases read
  · next text _ _ _ notTag =>
    obtain ⟨content, characters, same⟩ := Option.map_eq_some_iff.1 read
    cases same
    have other : c ≠ '<' := by
      rintro rfl
      exact notTag behind rfl
    unfold readCharacters at characters
    split at characters
    · cases characters
    · next uncut =>
      have free : '<' ∉ (c :: behind).takeWhile (· != '<') := by
        intro member
        exact absurd (List.all_eq_true.1 List.all_takeWhile _ member) (by decide)
      have tag : BeginsTag ((c :: behind).dropWhile (· != '<')) := by
        have head := List.head?_dropWhile_not (· != '<') (c :: behind)
        revert head
        cases (c :: behind).dropWhile (· != '<') with
        | nil => exact fun _ => rfl
        | cons d more => simp [BeginsTag]
      have closed : ¬cdataClose <:+: (c :: behind).takeWhile (· != '<') :=
        fun held => uncut (isSome_cutAt (by decide) held)
      exact ⟨(c :: behind).takeWhile (· != '<'), List.takeWhile_append_dropWhile.symm,
        .text (by simp [other]) free closed characters tag⟩

/-! ## Character data -/

/-- Texts that a reader takes as character data alone, without a tag. -/
def IsCharacterData (text : List Char) : Prop :=
  ∃ found, tokens text = some found ∧ ∀ token ∈ found, token.isCharacters

theorem isCharacterData_iff (text : List Char) :
    IsCharacterData text ↔ (tokens text).any (·.all Token.isCharacters) := by
  cases found : tokens text <;> simp [IsCharacterData, found]

instance (text : List Char) : Decidable (IsCharacterData text) :=
  decidable_of_iff _ (isCharacterData_iff text).symm

/-- A text that is empty or ends like a section. -/
def EndsSection (text : List Char) : Prop := text = [] ∨ cdataClose <:+ text

namespace Extent

variable {taken rest : List Char} {found : List Token}

/-- Character data is taken again in front of anything, text in front of a tag. -/
theorem tokens_append (extent : Extent taken found rest) (data : ∀ token ∈ found, token.isCharacters)
    {other : List Char} (tag : BeginsTag rest → BeginsTag other) :
    tokens (taken ++ other) = (tokens other).map (found ++ ·) := by
  cases extent with
  | tag free token isTag =>
    have isData := data token isTag.1
    rw [isTag.2] at isData
    cases isData
  | @cdata content _ closed =>
    have readable : (Piece.cdata content).IsReadable := closed
    exact tokens_write readable fun _ same => nomatch same
  | @text written content _ more free closed decoded begins =>
    have read := readTokens_plain more free closed decoded (tag begins)
    obtain ⟨c, later, rfl⟩ := List.exists_cons_of_ne_nil more
    exact tokens_of_readTokens read

theorem endsSection {behind : List Char} (extent : Extent taken found (behind ++ rest))
    (ends : cdataClose <:+ taken ++ behind) : EndsSection behind := by
  -- a token ends in `>`, or a tag begins behind it, and neither is so inside of a closing mark
  have stops : taken.getLast? = some '>' ∨ BeginsTag behind := by
    cases extent with
    | tag => exact .inl List.getLast?_concat
    | cdata => exact .inl (by simp [cdataClose])
    | text _ _ _ _ tag => exact .inr tag.of_append
  obtain ⟨before, same⟩ := ends
  rcases List.append_eq_append_iff.1 same with ⟨part, rfl, mark⟩ | ⟨part, _, behindSame⟩
  · simp only [cdataClose, String.reduceToList, List.cons_eq_append_iff, List.nil_eq_append_iff] at mark
    rcases mark with ⟨rfl, rfl⟩ | ⟨_, rfl, ⟨rfl, rfl⟩ | ⟨_, rfl, ⟨rfl, rfl⟩ | ⟨_, rfl, rfl, rfl⟩⟩⟩
    · exact .inr ⟨[], rfl⟩
    · simp [BeginsTag] at stops
    · simp [BeginsTag] at stops
    · exact .inl rfl
  · exact .inr ⟨part, behindSame.symm⟩

/-- A section does not go on behind a text in it that ends like a section. -/
theorem not_cdata_beyond {content text beyond : List Char} (closed : ¬cdataClose <:+: content)
    (ends : cdataClose <:+ text) :
    cdataOpen ++ content ++ cdataClose ≠ text ++ '<' :: beyond := by
  have inside (inner : List Char)
      (same : content ++ cdataClose = inner ++ cdataClose ++ '<' :: beyond) : False := by
    rcases List.append_eq_append_iff.1 same with ⟨part, _, mark⟩ | ⟨part, contentSame, _⟩
    · have member : '<' ∈ cdataClose := mark ▸ List.mem_append_right _ List.mem_cons_self
      exact absurd member (by decide)
    · exact closed ⟨inner, part, contentSame.symm⟩
  rintro reach
  obtain ⟨before, rfl⟩ := ends
  rw [List.append_assoc, List.append_assoc] at reach
  rcases List.append_eq_append_iff.1 reach with ⟨inner, _, reach⟩ | ⟨part, opens, reach⟩
  · exact inside inner (by rw [reach, List.append_assoc])
  · match part with
    | [] => exact inside [] reach.symm
    | d :: part =>
      -- what is left of the opening mark would begin with a bracket that it does not hold
      have bracket : ']' = d := (List.cons.inj reach).1
      have member : ']' ∈ cdataOpen := by
        rw [opens, bracket]
        exact List.mem_append_right _ List.mem_cons_self
      exact absurd member (by decide)

/-- No token reaches beyond a text that ends like a section when a tag follows. -/
theorem exists_append {text behind : List Char} (extent : Extent taken found rest)
    (same : text ++ behind = taken ++ rest) (more : text ≠ []) (ends : cdataClose <:+ text)
    (tag : BeginsTag behind) : ∃ left, text = taken ++ left ∧ rest = left ++ behind := by
  rcases List.append_eq_append_iff.1 same with ⟨beyond, reach, behindSame⟩ | ⟨left, textSame, restSame⟩
  · match beyond with
    | [] => exact ⟨[], by simpa using reach.symm, by simpa using behindSame.symm⟩
    | c :: beyond =>
      exfalso
      have first : c = '<' := by simpa [BeginsTag, behindSame] using tag
      subst first
      cases extent with
      | tag free token isTag =>
        obtain ⟨d, inner, rfl⟩ := List.exists_cons_of_ne_nil more
        have inside : _ ++ ['>'] = inner ++ '<' :: beyond := (List.cons.inj reach).2
        have member : '<' ∈ inner ++ '<' :: beyond := List.mem_append_right _ List.mem_cons_self
        rw [← inside] at member
        simp [free] at member
      | cdata closed => exact not_cdata_beyond closed ends reach
      | text _ _ closed =>
        exact closed (ends.isInfix.trans ⟨[], '<' :: beyond, reach.symm⟩)
  · exact ⟨left, textSame, restSame⟩

end Extent

theorem exists_readTokens_of_tokens {c : Char} {behind : List Char} {found : List Token}
    (read : tokens (c :: behind) = some found) :
    ∃ front rest later, readTokens (c :: behind) = some (front, rest) ∧ tokens rest = some later ∧
      found = front ++ later := by
  rw [tokens] at read
  split at read
  · next front rest first =>
    obtain ⟨later, held, same⟩ := Option.map_eq_some_iff.1 read
    exact ⟨front, rest, later, first, held, same.symm⟩
  · cases read

/-- Character data is read the same in front of every tag. -/
theorem tokens_append_of_data {text : List Char} {found : List Token} (read : tokens text = some found)
    (data : ∀ token ∈ found, token.isCharacters) {behind : List Char} (tag : BeginsTag behind) :
    tokens (text ++ behind) = (tokens behind).map (found ++ ·) := by
  induction size : text.length using Nat.strong_induction_on generalizing text found with
  | _ _ ih =>
    match text with
    | [] =>
      rw [tokens] at read
      cases read
      simp
    | c :: more =>
      obtain ⟨front, rest, later, first, held, rfl⟩ := exists_readTokens_of_tokens read
      obtain ⟨taken, same, extent⟩ := exists_extent first
      obtain ⟨frontData, laterData⟩ := List.forall_mem_append.1 data
      have shorter := length_readTokens first
      rw [same, List.append_assoc, extent.tokens_append frontData fun begins => begins.append tag,
        ih _ (by simp only [← size, List.length_cons]; omega) held laterData rfl,
        map_append_map_append]

/-- What stands in a text that ends like a section is read on its own when a tag follows. -/
theorem exists_tokens_of_endsSection {text behind : List Char} {found : List Token}
    (ends : EndsSection text) (tag : BeginsTag behind) (read : tokens (text ++ behind) = some found) :
    ∃ inside later, found = inside ++ later ∧ tokens behind = some later ∧
      ((∀ token ∈ inside, token.isCharacters) → IsCharacterData text) := by
  induction size : text.length using Nat.strong_induction_on generalizing text found with
  | _ _ ih =>
    match text with
    | [] => exact ⟨[], found, rfl, read, fun _ => ⟨[], by rw [tokens], by simp⟩⟩
    | c :: more =>
      have ends : cdataClose <:+ c :: more := ends.resolve_left (List.cons_ne_nil _ _)
      obtain ⟨front, rest, later, first, held, rfl⟩ := exists_readTokens_of_tokens read
      obtain ⟨taken, same, extent⟩ := exists_extent first
      obtain ⟨left, textSame, rfl⟩ := extent.exists_append same (List.cons_ne_nil _ _) ends tag
      -- what the first token leaves of the text ends like a section again, which carries the induction
      have leftEnds : EndsSection left := extent.endsSection (textSame ▸ ends)
      have shorter : (left ++ behind).length ≤ (more ++ behind).length := length_readTokens first
      have leftShorter : left.length < (c :: more).length := by
        simp only [List.length_append, List.length_cons] at shorter ⊢
        omega
      obtain ⟨inside, last, rfl, behindRead, inner⟩ := ih _ (size ▸ leftShorter) leftEnds held rfl
      refine ⟨front ++ inside, last, by simp, behindRead, fun data => ?_⟩
      obtain ⟨frontData, insideData⟩ := List.forall_mem_append.1 data
      obtain ⟨others, leftRead, othersData⟩ := inner insideData
      refine ⟨front ++ others, ?_, List.forall_mem_append.2 ⟨frontData, othersData⟩⟩
      rw [textSame, extent.tokens_append frontData BeginsTag.of_append, leftRead, Option.map_some]

end PageFeed.Xml
