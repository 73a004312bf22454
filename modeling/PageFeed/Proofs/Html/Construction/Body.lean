import PageFeed.Proofs.Html.Construction.Rounds

/-! A look at a token leaves a construction in order when its parts do, and asks for another one only
with fewer rounds to come. In the head and in the body of a page this is so for every token. -/

namespace PageFeed.Html.Build

variable {b : Builder}

/-! ## The head -/

theorem sound_openTemplate (sound : b.Sound) (tag : Tag) : (openTemplate tag b).Sound := by
  have opened : Builder.Sound (if isForShadow tag b then b else b.openTag tag) :=
    .ite sound (sound.openTag tag)
  have homes : ∀ mode ∈ Mode.inTemplate :: (if isForShadow tag b then b else b.openTag tag).templateModes,
      mode.isForText = false := List.forall_mem_cons.mpr ⟨rfl, opened.templateModes⟩
  exact (opened.enterTemplate homes).transfer rfl rfl rfl rfl rfl

section

variable {token : Token} {limit : Nat}

namespace Advances

theorem mergeRoot (sound : b.Sound) (tag : Tag) : Advances token limit b (mergeRoot tag) := by
  refine .change (.ite sound ?_)
  split
  · exact sound.grow (sound.linked.addMissingAttrs _ _) (by simp)
  · exact sound

theorem closeTemplate (sound : b.Sound) : Advances token limit b closeTemplate := by
  have closed := ((sound.popWhile (·.endsInTemplate)).popUntilNamed "template").clearFormatting
  exact .change (.ite (closed.leaveTemplate.transfer rfl rfl rfl rfl rfl) sound)

end Advances

/-- The head hands on what is not at home in it. -/
theorem advances_inHead (sound : b.Sound) (home : b.mode.isForText = false)
    (otherwise : token.isForHead = false → rounds token .afterHead b.pop < limit) :
    Advances token limit b (inHead token) := by
  have leave (foreign : token.isForHead = false) :
      Advances token limit b (retry .afterHead token Builder.pop) :=
    .retry sound.pop (otherwise foreign)
  unfold inHead
  simp only
  split
  next content => exact .ite (fun _ => .change (sound.addText content)) fun _ => leave rfl
  next text => exact .change (sound.addComment text)
  next tag =>
    split <;> with_reducible first
      | exact .mergeRoot sound tag
      | exact .change (sound.addTag tag)
      | exact .openTextOf sound home _ tag
      | exact .change (sound_openTemplate sound tag)
      | exact .ignore sound
      | exact leave (by simp_all [Token.isForHead, Token.starts, Token.ends, headNames])
  next tag =>
    split <;> with_reducible first
      | exact .enter sound.pop
      | exact leave (by simp_all [Token.isForHead, Token.starts, Token.ends])
      | exact .closeTemplate sound
      | exact .ignore sound
  next notText notComment notStart notEnd =>
    refine leave ?_
    cases token <;> first | rfl | exact absurd rfl (notStart _) | exact absurd rfl (notEnd _)

theorem advances_inHead_of_isForHead (sound : b.Sound) (home : b.mode.isForText = false)
    (own : token.isForHead) : Advances token limit b (inHead token) :=
  advances_inHead sound home fun foreign => by simp [foreign] at own

theorem advances_finishTemplate (sound : b.Sound) (low : 7 < limit)
    (within : 8 * b.templateModes.length < limit) : Advances .finish limit b (finishTemplate .finish) := by
  have closed := (sound.popUntilNamed "template").clearFormatting.leaveTemplate
  have ranked := rank_modeFor_le closed .finish
  change rank _ _ ≤ if b.templateModes.tail = [] then 7 else 8 at ranked
  refine .askOrIgnore sound fun _ => .update (.update (.update (.ask (.again ?_ ?_))))
  · exact closed.transfer rfl rfl rfl rfl rfl
  · change rank .finish _ + 8 * b.templateModes.tail.length < limit
    refine Nat.lt_of_le_of_lt (Nat.add_le_add_right ranked _) ?_
    have shorter := b.templateModes.length_tail
    split
    next none => simpa [none] using low
    next some =>
      have positive := List.length_pos_of_ne_nil some
      omega

end

/-! ## Start tags in the body -/

theorem sound_forbidFrameset (sound : b.Sound) : (forbidFrameset b).Sound :=
  sound.transfer rfl rfl rfl rfl rfl

theorem sound_openItem (sound : b.Sound) (tag : Tag) : (openItem tag b).Sound := by
  have forbidden := sound_forbidFrameset sound
  unfold openItem
  simp only
  split
  next name _ =>
    have closed := (forbidden.closeImpliedExcept name).popUntilNamed name
    exact closed.closeParagraphInScope.openTag tag
  · exact forbidden.closeParagraphInScope.openTag tag

theorem sound_openLink (sound : b.Sound) (tag : Tag) : (openLink tag b).Sound := by
  unfold openLink
  simp only
  split
  next id _ _ =>
    exact (((sound.adopt "a").forget id).close id).reopenFormatting.openFormatting tag
  · exact sound.reopenFormatting.openFormatting tag

theorem sound_mergeBody (sound : b.Sound) (tag : Tag) : (mergeBody tag b).Sound := by
  unfold mergeBody
  split
  next id _ =>
    exact .ite sound (sound.grow (sound.linked.addMissingAttrs id tag.attrs) (by simp))
  · exact sound

/-- The body that frames replace is taken out of the page but remains one of its nodes. -/
theorem sound_replaceBody (sound : b.Sound) (tag : Tag) : (replaceBody tag b).Sound := by
  unfold replaceBody
  split
  · split
    next id _ =>
      have kept : b.outermost?.toList ⊆ b.opened := by
        intro other member
        exact List.mem_of_getLast? (Option.mem_toList.mp member)
      have taken := sound.grow (sound.linked.detach id) (by simp)
      exact (taken.narrow _ kept).openTag tag
    · exact sound
  · exact sound

theorem sound_openForm (sound : b.Sound) (tag : Tag) : (openForm tag b).Sound := by
  have opened := sound.closeParagraphInScope.openElement (.html tag.name) tag.attrs
  unfold openForm
  exact .ite sound (.ite opened opened)

theorem sound_closeForm (sound : b.Sound) : (closeForm b).Sound := by
  unfold closeForm
  split
  · exact .ite (sound.closeImplied.popUntilNamed "form") sound
  · split
    · exact sound
    next id _ =>
      have forgotten : Builder.Sound { b with form := none } := sound
      exact .ite (forgotten.closeImplied.close id) forgotten

theorem sound_openSelect (sound : b.Sound) (tag : Tag) : (openSelect tag b).Sound :=
  (sound.reopenFormatting.openTag tag).transfer rfl rfl rfl rfl rfl

theorem sound_closeInScope (sound : b.Sound) (localName : String) :
    (closeInScope localName b).Sound :=
  .ite (sound.closeImplied.popUntilNamed localName) sound

theorem sound_openBlock (sound : b.Sound) (tag : Tag) : (openBlock tag b).Sound :=
  sound.closeParagraphInScope.openTag tag

theorem sound_openHeading (sound : b.Sound) (tag : Tag) : (openHeading tag b).Sound := by
  have closed := sound.closeParagraphInScope
  exact (Builder.Sound.ite closed.pop closed).openTag tag

theorem sound_openPreformatted (sound : b.Sound) (tag : Tag) : (openPreformatted tag b).Sound :=
  (sound_openBlock sound tag).transfer rfl rfl rfl rfl rfl

theorem sound_openInline (sound : b.Sound) (tag : Tag) : (openInline tag b).Sound :=
  sound.reopenFormatting.openTag tag

theorem sound_addInline (sound : b.Sound) (tag : Tag) : (addInline tag b).Sound :=
  sound_forbidFrameset (sound.reopenFormatting.addTag tag)

theorem sound_openButton (sound : b.Sound) (tag : Tag) : (openButton tag b).Sound :=
  sound_forbidFrameset (sound_openInline (sound_closeInScope sound "button") tag)

theorem sound_openNoBreak (sound : b.Sound) (tag : Tag) : (openNoBreak tag b).Sound := by
  have opened := sound.reopenFormatting
  exact (Builder.Sound.ite (opened.adopt "nobr").reopenFormatting opened).openFormatting tag

theorem sound_openEmbedded (sound : b.Sound) (tag : Tag) : (openEmbedded tag b).Sound :=
  sound_forbidFrameset (sound_openInline sound tag).markFormatting

theorem sound_openTable (sound : b.Sound) (tag : Tag) : (openTable tag b).Sound := by
  have opened : ((if b.isQuirky then b else b.closeParagraphInScope).openTag tag).Sound :=
    (Builder.Sound.ite sound sound.closeParagraphInScope).openTag tag
  exact opened.transfer rfl rfl rfl rfl rfl

theorem sound_addInput (sound : b.Sound) (tag : Tag) : (addInput tag b).Sound :=
  .ite (sound.reopenFormatting.addTag tag) (sound_addInline sound tag)

theorem sound_addRule (sound : b.Sound) (tag : Tag) : (addRule tag b).Sound :=
  sound_forbidFrameset (sound.closeParagraphInScope.addTag tag)

theorem sound_openOption (sound : b.Sound) (tag : Tag) : (openOption tag b).Sound :=
  sound_openInline (.ite sound.pop sound) tag

theorem sound_openRubyBase (sound : b.Sound) (tag : Tag) : (openRubyBase tag b).Sound :=
  (Builder.Sound.ite sound.closeImplied sound).openTag tag

theorem sound_openRubyText (sound : b.Sound) (tag : Tag) : (openRubyText tag b).Sound :=
  (Builder.Sound.ite (sound.closeImpliedExcept "rtc") sound).openTag tag

theorem sound_closeOrMakeParagraph (sound : b.Sound) : (closeOrMakeParagraph b).Sound :=
  (Builder.Sound.ite sound (sound.openMissing "p")).closeParagraph

theorem sound_closeItem (sound : b.Sound) (localName : String) : (closeItem localName b).Sound :=
  .ite ((sound.closeImpliedExcept localName).popUntilNamed localName) sound

theorem sound_closeHeading (sound : b.Sound) : (closeHeading b).Sound :=
  .ite (sound.closeImplied.popUntil _) sound

theorem sound_closeEmbedded (sound : b.Sound) (localName : String) :
    (closeEmbedded localName b).Sound :=
  .ite (sound.closeImplied.popUntilNamed localName).clearFormatting sound

theorem sound_closeForText (sound : b.Sound) :
    (forbidFrameset b.closeParagraphInScope.reopenFormatting).Sound :=
  sound_forbidFrameset sound.closeParagraphInScope.reopenFormatting

theorem home_closeForText (home : b.mode.isForText = false) :
    (forbidFrameset b.closeParagraphInScope.reopenFormatting).mode.isForText = false := by
  have same := (reopenFormatting_fields b.closeParagraphInScope).1
  rw [mode_closeParagraphInScope] at same
  exact same ▸ home

/-! ## Tokens in the body -/

section

variable {limit : Nat}

theorem advances_startOwnInBody (sound : b.Sound) (home : b.mode.isForText = false) (token : Token)
    (tag : Tag) : Advances token limit b (startOwnInBody tag) := by
  have textArea : Advances token limit b (do
      modify fun b => { b with dropsLineFeed := true, framesetAllowed := false }
      openTextOf .escapable tag) := by
    refine .update (.openTextOf ?_ ?_ _ tag)
    · exact sound.transfer rfl rfl rfl rfl rfl
    · exact home
  have frame : Advances token limit b (do modify forbidFrameset; openTextOf .raw tag) :=
    .update (.openTextOf (sound_forbidFrameset sound) home _ tag)
  unfold startOwnInBody
  split <;> with_reducible first
    | exact .mergeRoot sound tag
    | exact .change (sound_mergeBody sound tag)
    | exact .change (sound_replaceBody sound tag)
    | exact .change (sound_openPreformatted sound tag)
    | exact .change (sound_openForm sound tag)
    | exact .change (sound_openItem sound tag)
    | exact .update (.readAs (sound_openBlock sound tag) _)
    | exact .change (sound_openButton sound tag)
    | exact .change (sound_openLink sound tag)
    | exact .change (sound_openNoBreak sound tag)
    | exact .change (sound_openEmbedded sound tag)
    | exact .change (sound_openTable sound tag)
    | exact .change (sound_addInput sound tag)
    | exact .change (sound.addTag tag)
    | exact .change (sound_addRule sound tag)
    | exact .change (sound_addInline sound _)
    | exact textArea
    | exact .update (.openTextOf (sound_closeForText sound) (home_closeForText home) _ tag)
    | exact frame
    | exact .openTextOf sound home _ tag
    | exact .change (sound_openSelect sound tag)
    | exact .change (sound_openOption sound tag)
    | exact .change (sound_openRubyBase sound tag)
    | exact .change (sound_openRubyText sound tag)
    | exact .change (sound.addForeign _ _ tag)
    | exact .change (sound_openInline sound tag)

theorem advances_startInBody (sound : b.Sound) (home : b.mode.isForText = false) (token : Token)
    (tag : Tag) : Advances token limit b (startInBody tag) := by
  unfold startInBody
  refine .ite (fun own => ?_) fun _ => .ite (fun _ => ?_) fun _ => .ite (fun _ => ?_) fun _ =>
    .ite (fun _ => ?_) fun _ => .ite (fun _ => ?_) fun _ => .ite (fun _ => .ignore sound) fun _ => ?_
  · have head : Advances (.startTag tag) 0 b (inHead (.startTag tag)) :=
      advances_inHead_of_isForHead sound home (by simpa [Token.isForHead, Token.starts, Token.ends] using own)
    exact head.last token
  · exact .change (sound_openBlock sound tag)
  · exact .change (sound_openHeading sound tag)
  · exact .change (sound.reopenFormatting.openFormatting tag)
  · exact .change (sound_addInline sound tag)
  · exact advances_startOwnInBody sound home token tag

/-- The end tag of the root element is handed on to the mode behind the body, which takes it. -/
theorem advances_endOwnInBody (sound : b.Sound) (home : b.mode.isForText = false) (tag : Tag)
    (positive : 0 < limit) : Advances (.endTag tag) limit b (endOwnInBody tag) := by
  unfold endOwnInBody
  split <;> with_reducible first
    | exact .closeTemplate sound
    | exact .askOrIgnore sound fun _ => .enterOnly sound _
    | exact .change (sound_closeInScope sound tag.name)
    | exact .change (sound_closeForm sound)
    | exact .change (sound_closeOrMakeParagraph sound)
    | exact .change (sound_closeItem sound tag.name)
    | exact .change (sound.adopt tag.name)
    | exact .change (sound_closeEmbedded sound tag.name)
    | exact advances_startInBody sound home _ _
    | exact .change (sound.closeNamed tag.name)
    | skip
  next isRoot =>
    have taken : rounds (.endTag tag) .afterBody b = 0 := by
      simp [rounds, rank, load, Token.ends, isRoot]
    exact .askOrIgnore sound fun _ => .again sound (taken ▸ positive)

theorem advances_endInBody (sound : b.Sound) (home : b.mode.isForText = false) (tag : Tag)
    (positive : 0 < limit) : Advances (.endTag tag) limit b (endInBody tag) := by
  unfold endInBody
  refine .ite (fun _ => ?_) fun _ => .ite (fun _ => ?_) fun _ => .ite (fun _ => ?_) fun _ => ?_
  · exact .change (sound_closeInScope sound tag.name)
  · exact .change (sound_closeHeading sound)
  · exact .change (sound.adopt tag.name)
  · exact advances_endOwnInBody sound home tag positive

theorem sound_addTextInBody (sound : b.Sound) (content : List Char) :
    Builder.Sound ((if isBlankText content then b.reopenFormatting else
      forbidFrameset b.reopenFormatting).addText content) := by
  have opened := sound.reopenFormatting
  exact (Builder.Sound.ite opened (sound_forbidFrameset opened)).addText content

theorem advances_inBody (sound : b.Sound) (home : b.mode.isForText = false) (token : Token) :
    Advances token (rounds token .inBody b) b (inBody token) := by
  unfold inBody
  split
  next content => exact .change (sound_addTextInBody sound content)
  next text => exact .change (sound.addComment text)
  next tag => exact advances_startInBody sound home _ tag
  next tag => exact advances_endInBody sound home tag (by simp only [rounds, rank]; omega)
  · refine .ask (.ite (fun _ => .ignore sound) fun more => ?_)
    have positive := List.length_pos_of_ne_nil (by simpa using more)
    have left : rounds .finish .inBody b = 1 + 8 * b.templateModes.length := rfl
    exact advances_finishTemplate sound (by omega) (by omega)
  · exact .ignore sound

/-- Any mode that is not the last one may fall back on the rules of the body. -/
theorem advances_inBody_of_rank {token : Token} (sound : b.Sound) (home : b.mode.isForText = false)
    {mode : Mode} (ranked : 1 ≤ rank token mode) : Advances token (rounds token mode b) b (inBody token) :=
  (advances_inBody sound home token).mono (rounds_inBody_le ranked)

end

end PageFeed.Html.Build
