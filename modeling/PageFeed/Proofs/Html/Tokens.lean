import PageFeed.Html.Page
import Mathlib.Data.List.Infix

/-! Every round of reading takes at least one character of the page. A page is therefore read to its end
in as many rounds as it has characters, whatever its tokens do to the tree. -/

namespace PageFeed.Html

namespace Token

open Text (isAsciiBlank dropWord?)

/-! ## Comments and declarations -/

theorem commentFrom_suffix (state : CommentState) (read text : List Char) :
    (commentFrom state read text).2 <:+ text := by
  induction text generalizing state read with
  | nil => cases state <;> exact List.suffix_rfl
  | cons c rest ih =>
    have later (state : CommentState) (read : List Char) :
        (commentFrom state read rest).2 <:+ c :: rest := (ih state read).trans (List.suffix_cons c rest)
    cases state <;> simp only [commentFrom] <;> split_ifs <;>
      first | exact later _ _ | exact List.suffix_cons c rest

theorem skipDeclaration_suffix (text : List Char) : skipDeclaration text <:+ text :=
  (List.tail_suffix _).trans (List.dropWhile_suffix _)

theorem defective_suffix (declaration : Doctype) (text : List Char) :
    (defective declaration text).2 <:+ text := skipDeclaration_suffix text

theorem identifier_suffix (quote : Char) (text : List Char) : (identifier quote text).2.2 <:+ text := by
  have dropped := List.dropWhile_suffix (l := text) fun c => c != quote && c != '>'
  unfold identifier
  dsimp only
  split
  · next c rest same =>
    rw [same] at dropped
    split
    · exact (List.suffix_cons c rest).trans dropped
    · exact dropped
  · exact List.nil_suffix

/-- A quoted identifier may have blanks in front of it. -/
theorem identifier_suffix_of_dropWhile {quote : Char} {text rest : List Char}
    (quoted : text.dropWhile isAsciiBlank = quote :: rest) : (identifier quote rest).2.2 <:+ text :=
  calc (identifier quote rest).2.2
      <:+ rest := identifier_suffix quote rest
    _ <:+ quote :: rest := List.suffix_cons quote rest
    _ <:+ text := quoted ▸ List.dropWhile_suffix _

theorem afterSystem_suffix (declaration : Doctype) (text : List Char) :
    (afterSystem declaration text).2 <:+ text := by
  unfold afterSystem
  split
  · exact List.nil_suffix
  · exact (skipDeclaration_suffix _).trans (List.dropWhile_suffix _)

theorem systemIdentifier_suffix (declaration : Doctype) (text : List Char) :
    (systemIdentifier declaration text).2 <:+ text := by
  have dropped := List.dropWhile_suffix (l := text) isAsciiBlank
  unfold systemIdentifier
  split
  · exact List.nil_suffix
  · next c rest same =>
    have named := identifier_suffix_of_dropWhile same
    rw [same] at dropped
    dsimp only
    split_ifs
    · exact (afterSystem_suffix _ _).trans named
    · exact (defective_suffix _ _).trans named
    · exact (defective_suffix _ _).trans dropped

theorem afterPublic_suffix (declaration : Doctype) (text : List Char) :
    (afterPublic declaration text).2 <:+ text := by
  have dropped := List.dropWhile_suffix (l := text) isAsciiBlank
  unfold afterPublic
  split
  · next rest same => exact (List.suffix_cons _ rest).trans (same ▸ dropped)
  · exact (systemIdentifier_suffix _ _).trans dropped

theorem publicIdentifier_suffix (declaration : Doctype) (text : List Char) :
    (publicIdentifier declaration text).2 <:+ text := by
  have dropped := List.dropWhile_suffix (l := text) isAsciiBlank
  unfold publicIdentifier
  split
  · exact List.nil_suffix
  · next c rest same =>
    have named := identifier_suffix_of_dropWhile same
    rw [same] at dropped
    dsimp only
    split_ifs
    · exact (afterPublic_suffix _ _).trans named
    · exact (defective_suffix _ _).trans named
    · exact (defective_suffix _ _).trans dropped

theorem dropWord?_suffix {word text rest : List Char} (found : dropWord? word text = some rest) :
    rest <:+ text := by
  induction word generalizing text with
  | nil =>
    simp only [dropWord?, Option.some.injEq] at found
    exact found ▸ List.suffix_rfl
  | cons w word ih =>
    cases text with
    | nil => cases found
    | cons c text =>
      rw [dropWord?] at found
      split at found
      · exact (ih found).trans (List.suffix_cons c text)
      · cases found

theorem readDoctype_suffix (text : List Char) : (readDoctype text).2 <:+ text := by
  have dropped := List.dropWhile_suffix (l := text) isAsciiBlank
  unfold readDoctype
  dsimp only
  split
  · exact List.nil_suffix
  · next rest same => exact (List.suffix_cons _ rest).trans (same ▸ dropped)
  · refine List.IsSuffix.trans ?_ dropped
    generalize text.dropWhile isAsciiBlank = named
    have behind := (List.dropWhile_suffix (l := named.dropWhile fun c => !isAsciiBlank c && c != '>')
      isAsciiBlank).trans (List.dropWhile_suffix _)
    split
    · exact List.nil_suffix
    · next rest same => exact (List.suffix_cons _ rest).trans (same ▸ behind)
    · refine List.IsSuffix.trans ?_ behind
      split
      · next found => exact (publicIdentifier_suffix _ _).trans (dropWord?_suffix found)
      · split
        · next found => exact (systemIdentifier_suffix _ _).trans (dropWord?_suffix found)
        · exact defective_suffix _ _

theorem cdataSection_suffix (text : List Char) : (cdataSection text).2 <:+ text := by
  induction text with
  | nil => exact List.suffix_rfl
  | cons c rest ih =>
    rw [cdataSection]
    split
    · next same => exact ⟨[']', ']', '>'], same.symm⟩
    · exact ih.trans (List.suffix_cons c rest)

/-! ## Tags -/

theorem length_attrs? {before after : List Attr} {text rest : List Char} {closed : Bool}
    (read : attrs? before text = some (after, closed, rest)) : rest.length ≤ text.length := by
  induction before, text using attrs?.induct with
  | case1 => simp [attrs?] at read
  | case2 before c more blank ih =>
    rw [attrs?, if_pos blank] at read
    exact Nat.le_succ_of_le (ih read)
  | case3 before more noBlank =>
    rw [attrs?, if_neg noBlank, if_pos rfl] at read
    cases read
    exact Nat.le_succ _
  | case4 before more bracket noBlank _ =>
    rw [attrs?, if_neg noBlank, if_neg (by decide), if_pos rfl, if_pos bracket] at read
    cases read
    exact ((List.tail_suffix more).trans (List.suffix_cons _ more)).length_le
  | case5 before more noBlank _ noBracket ih =>
    rw [attrs?, if_neg noBlank, if_neg (by decide), if_pos rfl, if_neg noBracket] at read
    exact Nat.le_succ_of_le (ih read)
  | case6 before c more noBlank noBracket noSlash name value ih =>
    rw [attrs?, if_neg noBlank, if_neg noBracket, if_neg noSlash] at read
    have behind := length_afterName (more.dropWhile goesOnAttrName)
    have named := (List.dropWhile_suffix (l := more) goesOnAttrName).length_le
    exact Nat.le_succ_of_le ((ih read).trans (behind.trans named))

theorem length_tag? {text rest : List Char} {tag : Tag} (read : tag? text = some (tag, rest)) :
    rest.length ≤ text.length := by
  unfold tag? at read
  split at read
  · cases read
  · next attrs =>
    cases read
    exact (length_attrs? attrs).trans (List.dropWhile_suffix _).length_le

/-! ## The next tokens -/

theorem readComment_suffix (text : List Char) : (readComment text).2 <:+ text :=
  commentFrom_suffix .start [] text

theorem readBogusComment_suffix (text : List Char) : (readBogusComment text).2 <:+ text :=
  (List.tail_suffix _).trans (List.dropWhile_suffix _)

/-- What follows a bracket may be empty or stand for itself, so nothing of it has to be taken. -/
theorem length_afterBracket (foreign : Bool) (text : List Char) :
    (afterBracket foreign text).2.length ≤ text.length := by
  unfold afterBracket
  split
  · next rest =>
    refine Nat.le_succ_of_le (List.IsSuffix.length_le ?_)
    split
    · next after =>
      exact (readComment_suffix after).trans ((List.suffix_cons _ _).trans (List.suffix_cons _ _))
    · split
      · next found => exact (readDoctype_suffix _).trans (dropWord?_suffix found)
      · split
        · next after found =>
          split at found
          · have opening := List.isPrefixOf?_eq_some_iff_append_eq.1 found
            exact (cdataSection_suffix after).trans ⟨_, opening⟩
          · cases found
        · exact readBogusComment_suffix rest
  · next rest =>
    refine Nat.le_succ_of_le ?_
    split
    · exact Nat.le_refl _
    · exact Nat.le_succ _
    · split_ifs
      · split
        · next found => exact length_tag? found
        · exact Nat.zero_le _
      · exact (readBogusComment_suffix _).length_le
  · next c rest _ _ =>
    split_ifs
    · split
      · next found => exact length_tag? found
      · exact Nat.zero_le _
    · exact (readBogusComment_suffix _).length_le
    · exact Nat.le_refl _
  · exact Nat.le_refl _

theorem length_ofMarkup {text : List Char} (more : text ≠ []) (foreign : Bool) :
    (ofMarkup foreign text).2.length < text.length := by
  obtain ⟨c, rest, rfl⟩ := List.exists_cons_of_ne_nil more
  unfold ofMarkup
  split
  · next behind same =>
    cases same
    exact Nat.lt_succ_of_le (length_afterBracket foreign rest)
  · next noBracket =>
    have other : (c != '<') = true := by
      rw [bne_iff_ne]
      rintro rfl
      exact noBracket rest rfl
    have behind : (c :: rest).dropWhile (· != '<') = rest.dropWhile (· != '<') :=
      List.dropWhile_cons_of_pos other
    dsimp only
    rw [behind]
    exact Nat.lt_succ_of_le (List.dropWhile_suffix _).length_le

theorem beforeClose_append (element : String) (text : List Char) :
    (beforeClose element text).1 ++ (beforeClose element text).2 = text := by
  induction text with
  | nil => rfl
  | cons c rest ih =>
    rw [beforeClose]
    split_ifs
    · rfl
    · exact congrArg (c :: ·) ih

theorem beforeScriptClose_append (element : String) (state : ScriptState) (text : List Char) :
    (beforeScriptClose element state text).1 ++ (beforeScriptClose element state text).2 = text := by
  induction text generalizing state with
  | nil => rfl
  | cons c rest ih =>
    rw [beforeScriptClose.eq_def]
    dsimp only
    split_ifs
    · rfl
    · exact congrArg (c :: ·) (ih _)

/-- In the middle of a text of whatever kind, the next tokens take some of what is there. -/
theorem length_next {text : List Char} (more : text ≠ []) (kind : TextKind) (element : String)
    (foreign : Bool) : (next kind element foreign text).2.length < text.length := by
  have upTo (split : List Char × List Char) (tokens : List Char → List Token)
      (whole : split.1 ++ split.2 = text) :
      (if split.1.isEmpty then ofMarkup foreign split.2 else (tokens split.1, split.2)).2.length <
        text.length := by
    obtain ⟨content, rest⟩ := split
    cases content with
    | nil =>
      obtain rfl : rest = text := whole
      exact length_ofMarkup more foreign
    | cons c content =>
      have longer := congrArg List.length whole
      simp only [List.length_append, List.length_cons] at longer
      simp only [List.isEmpty_cons, Bool.false_eq_true, if_false]
      omega
  cases kind with
  | markup => exact length_ofMarkup more foreign
  | escapable => exact upTo _ _ (beforeClose_append element text)
  | raw => exact upTo _ (fun content => [.text (content.map replaceNul)]) (beforeClose_append element text)
  | script =>
    exact upTo _ (fun content => [.text (content.map replaceNul)])
      (beforeScriptClose_append element .outside text)
  | plain => exact List.length_pos_iff.2 more

end Token

/-! ## Pages -/

theorem dropMark_suffix (text : List Char) : dropMark text <:+ text := by
  unfold dropMark
  split
  · exact List.suffix_cons _ _
  · exact List.suffix_rfl

namespace Progress

/-- A text whose tokens are taken in up to its end, however many they are. -/
inductive Reads : Progress → List Char → Progress → Prop
  | done (progress : Progress) : Reads progress [] progress
  | round {progress last : Progress} {text rest : List Char} {tokens : List Token} (more : text ≠ [])
    (found : Token.next progress.kind progress.element progress.isForeign text = (tokens, rest))
    (later : Reads (tokens.foldl take progress)
      (if progress.closesScript tokens then dropMark rest else rest) last) :
    Reads progress text last

/-- As many rounds as there are characters are enough. -/
theorem reads_takeAll {rounds : Nat} {text : List Char} (enough : text.length ≤ rounds)
    (progress : Progress) : Reads progress text (takeAll rounds progress text) := by
  induction rounds generalizing progress text with
  | zero =>
    obtain rfl := List.eq_nil_of_length_eq_zero (Nat.le_zero.1 enough)
    exact .done progress
  | succ rounds ih =>
    cases text with
    | nil => exact .done progress
    | cons c more =>
      have less := Token.length_next (List.cons_ne_nil c more) progress.kind progress.element
        progress.isForeign
      rw [takeAll.eq_def]
      dsimp only
      cases found : Token.next progress.kind progress.element progress.isForeign (c :: more) with
      | mk tokens rest =>
        rw [found] at less
        refine .round (List.cons_ne_nil c more) found (ih ?_ _)
        have shorter := (dropMark_suffix rest).length_le
        dsimp only at less
        split <;> omega

end Progress

/-- Every page is read to its end before its tree is closed. -/
theorem exists_reads_parse (source : String) : ∃ last,
    Progress.Reads { builder := {} } (prepare source) last ∧
      parse source = (last.take .finish).builder.document := by
  generalize begun : ({ builder := {} } : Progress) = first
  have whole := Progress.reads_takeAll (Nat.le_refl (prepare source).length) first
  refine ⟨_, whole, ?_⟩
  rw [parse, Progress.takePage, begun]

end PageFeed.Html
