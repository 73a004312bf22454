import PageFeed.Html.Construction.Table
import PageFeed.Proofs.Html.Construction.Body

/-! A look at a token in tables and their parts, in selection lists, in templates and in frame sets leaves
a construction in order and asks for another one only with fewer rounds to come. -/

namespace PageFeed.Html.Build

variable {b : Builder} {token : Token} {limit : Nat}

/-! ## Text in tables -/

theorem advances_fosterInBody (sound : b.Sound) (home : b.mode.isForText = false) {mode : Mode}
    (ranked : 1 ≤ rank token mode) : Advances token (rounds token mode b) b (fosterInBody token) := by
  have fostered : Builder.Sound { b with fosters := true } := sound.transfer rfl rfl rfl rfl rfl
  have looked : Advances token (rounds token mode b) { b with fosters := true } (inBody token) :=
    advances_inBody_of_rank fostered home ranked
  exact .update (looked.andThen (fun _ later => later.transfer rfl rfl rfl rfl rfl) fun _ _ => Nat.le_refl _)

theorem advances_textInTable (sound : b.Sound) (home : b.mode.isForText = false) (isText : token.isText)
    {mode : Mode} (ranked : 1 ≤ rank token mode) :
    Advances token (rounds token mode b) b (textInTable token) := by
  refine .ask (.ite (fun _ => .retry (sound.returnTo home) ?_) fun _ =>
    advances_fosterInBody sound home ranked)
  have collected (later : Builder) : rounds token .inTableText later = 0 := by
    cases token <;> first | rfl | cases isText
  rw [collected]
  exact Nat.lt_of_lt_of_le ranked (Nat.le_add_right _ _)

/-- The elements that a piece of text opens again are formatting elements. -/
theorem fosterInBody_text (sound : b.Sound) (content : List Char) :
    ((fosterInBody (.text content)).run b).2.Sound ∧
      ((fosterInBody (.text content)).run b).2.templateModes = b.templateModes ∧
      ((fosterInBody (.text content)).run b).2.formatting.length = b.formatting.length ∧
      ((fosterInBody (.text content)).run b).2.opened.length ≤
        b.opened.length + b.formatting.length := by
  have fostered : Builder.Sound { b with fosters := true } := sound.transfer rfl rfl rfl rfl rfl
  have added := sound_addTextInBody fostered content
  obtain ⟨_, templateModes, formatting, opened⟩ := reopenFormatting_fields { b with fosters := true }
  refine ⟨added.transfer rfl rfl rfl rfl rfl, ?_⟩
  have shape : ((fosterInBody (.text content)).run b).2 = { Builder.addText (if isBlankText content then
      Builder.reopenFormatting { b with fosters := true } else
        forbidFrameset (Builder.reopenFormatting { b with fosters := true })) content with
      fosters := false } := rfl
  rw [shape]
  cases isBlankText content <;> exact ⟨templateModes, formatting, opened⟩

theorem fosterPieces_fields (sound : b.Sound) (pieces : List (List Char)) :
    ((fosterPieces pieces).run b).2.Sound ∧
      ((fosterPieces pieces).run b).2.templateModes = b.templateModes ∧
      ((fosterPieces pieces).run b).2.opened.length ≤
        b.opened.length + pieces.length * b.formatting.length := by
  induction pieces generalizing b with
  | nil => exact ⟨sound, rfl, Nat.le_add_right _ _⟩
  | cons content rest step =>
    obtain ⟨later, templateModes, formatting, opened⟩ := fosterInBody_text sound content
    obtain ⟨last, kept, more⟩ := step later
    refine ⟨last, kept.trans templateModes, Nat.le_trans more ?_⟩
    rw [formatting, List.length_cons, Nat.succ_mul]
    omega

theorem foldl_addText_fields (sound : b.Sound) (pieces : List (List Char)) :
    (pieces.foldl (fun b content => b.addText content) b).Sound ∧
      (pieces.foldl (fun b content => b.addText content) b).templateModes = b.templateModes ∧
      (pieces.foldl (fun b content => b.addText content) b).opened = b.opened := by
  induction pieces generalizing b with
  | nil => exact ⟨sound, rfl, rfl⟩
  | cons content rest step => exact step (sound.addText content)

theorem advances_inTableText (sound : b.Sound) (token : Token) :
    Advances token (rounds token .inTableText b) b (inTableText token) := by
  unfold inTableText
  split
  · exact .ignore sound
  · exact .change (sound.transfer rfl rfl rfl rfl rfl)
  next notNull notText =>
    have emptied : Builder.Sound { b with pending := [] } := sound.transfer rfl rfl rfl rfl rfl
    have other : token.isText = false := by
      cases token <;> first | rfl | exact absurd rfl notNull | exact absurd rfl (notText _)
    refine .ask (.update (.ite (fun _ => ?_) fun _ => ?_))
    · obtain ⟨later, templateModes, opened⟩ := foldl_addText_fields emptied b.pending.reverse
      refine .update (.ask (.again later ?_))
      exact rounds_lt_of_tableText later.returnMode other templateModes
        (Nat.le_trans (Nat.le_of_eq (congrArg List.length opened)) (Nat.le_add_right _ _))
    · obtain ⟨later, templateModes, opened⟩ := fosterPieces_fields emptied b.pending.reverse
      rw [List.length_reverse] at opened
      exact .bind (.ask (.again later
        (rounds_lt_of_tableText later.returnMode other templateModes opened)))

/-! ## Tables and their parts -/

section

theorem sound_clearToTable (sound : b.Sound) : (clearToTable b).Sound := sound.popUntilCurrent _

theorem sound_clearToRows (sound : b.Sound) : (clearToRows b).Sound := sound.popUntilCurrent _

theorem sound_closeRow (sound : b.Sound) : (closeRow b).Sound := (sound.popUntilCurrent _).pop

theorem sound_closeCell (sound : b.Sound) : (closeCell b).Sound :=
  (sound.closeImplied.popUntil _).clearFormatting

theorem sound_addTableForm (sound : b.Sound) (tag : Tag) : (addTableForm tag b).Sound :=
  .ite sound ((sound.addElement (.html tag.name) tag.attrs).transfer rfl rfl rfl rfl rfl)

theorem sound_closeTable (sound : b.Sound) : (closeTable b).Sound :=
  .ite ((sound.popUntilNamed "table").transfer rfl rfl rfl rfl rfl) sound

end

theorem isForHead_startTag {tag : Tag} (named : tag.name ∈ headNames) :
    (Token.startTag tag).isForHead := by
  simp [Token.isForHead, Token.starts, named]

theorem isForHead_endTag {tag : Tag} (named : tag.name = "template") : (Token.endTag tag).isForHead := by
  simp [Token.isForHead, Token.ends, named]

theorem advances_inTable (sound : b.Sound) (home : b.mode.isForText = false) (token : Token) :
    Advances token (rounds token .inTable b) b (inTable token) := by
  have body : Advances token (rounds token .inTable b) b (fosterInBody token) :=
    advances_fosterInBody sound home (by simp [rank])
  have head (own : token.isForHead) : Advances token (rounds token .inTable b) b (inHead token) :=
    advances_inHead_of_isForHead sound home own
  unfold inTable
  split
  · exact advances_textInTable sound home rfl (by simp [rank])
  · exact advances_textInTable sound home rfl (by simp [rank])
  next text => exact .change (sound.addComment text)
  next tag =>
    split <;> with_reducible first
      | exact .enter ((sound_clearToTable sound).markFormatting.openTag tag)
      | exact .enter ((sound_clearToTable sound).openTag tag)
      | exact .retry ((sound_clearToTable sound).openMissing _)
          (by simp [rounds, rank, load, Token.starts, ‹tag.name = _›])
      | exact head (isForHead_startTag (by simp [headNames, ‹tag.name = _›]))
      | exact .ite (fun _ => .change (sound.addTag tag)) fun _ => body
      | exact .change (sound_addTableForm sound tag)
      | exact body
      | skip
    next named =>
      refine .askOrIgnore sound fun held => .update (.ask ?_)
      have closed := sound.popUntilNamed "table"
      have shorter := length_popUntilNamed_lt (opened_ne_nil held) "table"
      refine .again closed (rounds_lt_of_closed (isForText_modeFor closed) (by simp) ?_)
      have whole : rounds (.startTag tag) .inTable b = 3 + 8 * b.opened.length := by
        simp [rounds, rank, load, Token.starts, named]
      omega
  next tag =>
    split <;> with_reducible first
      | exact .change (sound_closeTable sound)
      | exact .ignore sound
      | exact head (isForHead_endTag ‹_›)
      | exact body
  · exact advances_inBody_of_rank sound home (by simp [rank])
  · exact body

theorem advances_leaveCaption {after : Build Outcome}
    (sound : b.Sound) (later : ∀ closed : Builder, closed.Sound → Advances token limit closed after) :
    Advances token limit b (leaveCaption after) :=
  .askOrIgnore sound fun _ =>
    .update (later _ (sound.closeImplied.popUntilNamed "caption").clearFormatting)

theorem advances_inCaption (sound : b.Sound) (home : b.mode.isForText = false) (token : Token) :
    Advances token (rounds token .inCaption b) b (inCaption token) := by
  have body : Advances token (rounds token .inCaption b) b (inBody token) :=
    advances_inBody_of_rank sound home (by simp [rank])
  unfold inCaption
  split
  next tag =>
    split <;> with_reducible first
      | exact advances_leaveCaption sound fun _ closed =>
          .again closed (by simp [rounds, rank, load, Token.starts, ‹tag.name = _›])
      | exact body
  next tag =>
    split <;> with_reducible first
      | exact advances_leaveCaption sound fun _ closed =>
          .again closed (by simp [rounds, rank, load, Token.starts])
      | exact advances_leaveCaption sound fun _ closed => .enterOnly closed _
      | exact .ignore sound
      | exact body
  · exact body

theorem advances_inColumnGroup (sound : b.Sound) (home : b.mode.isForText = false) (token : Token) :
    Advances token (rounds token .inColumnGroup b) b (inColumnGroup token) := by
  have leave (other : token.starts ["col"] = false) :
      Advances token (rounds token .inColumnGroup b) b (leaveColumnGroup token) := by
    refine .askOrIgnore sound fun _ => .retry sound.pop ?_
    have lighter : load token .inTable b.pop ≤ load token .inColumnGroup b :=
      load_mono (List.length_tail ▸ Nat.sub_le _ _) rfl rfl rfl
    simp only [rounds, rank, other, Bool.false_eq_true, if_false]
    omega
  have head (own : token.isForHead) : Advances token (rounds token .inColumnGroup b) b (inHead token) :=
    advances_inHead_of_isForHead sound home own
  unfold inColumnGroup
  split
  next content => exact .ite (fun _ => .change (sound.addText content)) fun _ => leave rfl
  next text => exact .change (sound.addComment text)
  next tag =>
    split <;> with_reducible first
      | exact .mergeRoot sound tag
      | exact .change (sound.addTag tag)
      | exact head (isForHead_startTag (by simp [headNames, ‹tag.name = _›]))
      | exact leave (by simp_all [Token.starts])
  next tag =>
    split <;> with_reducible first
      | exact .askOrIgnore sound fun _ => .enter sound.pop
      | exact .ignore sound
      | exact head (isForHead_endTag ‹_›)
      | exact leave rfl
  · exact advances_inBody_of_rank sound home (by simp [rank, Token.starts])
  next notStart _ _ => exact leave (Token.starts_eq_false notStart _)

theorem advances_inTableBody (sound : b.Sound) (home : b.mode.isForText = false) (token : Token) :
    Advances token (rounds token .inTableBody b) b (inTableBody token) := by
  have table (other : token.starts ["td", "th", "tr"] = false) :
      Advances token (rounds token .inTableBody b) b (inTable token) := by
    refine (advances_inTable sound home token).mono ?_
    simp [rounds, rank, other, load]
  have leave (other : token.starts ["td", "th", "tr"] = false) (inside : token.starts ["table"] = false)
      (more : token ≠ .finish) :
      Advances token (rounds token .inTableBody b) b (leaveTableBody token) := by
    refine .askOrIgnore sound fun _ => .retry (sound_clearToRows sound).pop ?_
    simp [rounds, rank, other, load, inside, more]
  unfold inTableBody
  split
  next tag =>
    split <;> with_reducible first
      | exact .enter ((sound_clearToRows sound).openTag tag)
      | exact .retry ((sound_clearToRows sound).openMissing _)
          (by simp [rounds, rank, load, Token.starts, ‹tag.name = _›])
      | exact leave (by simp [Token.starts, ‹tag.name = _›]) (by simp [Token.starts, ‹tag.name = _›]) (by simp)
      | exact table (by simp_all [Token.starts])
  next tag =>
    split <;> with_reducible first
      | exact .askOrIgnore sound fun _ => .enter (sound_clearToRows sound).pop
      | exact leave rfl rfl (by simp)
      | exact .ignore sound
      | exact table rfl
  next notStart _ => exact table (Token.starts_eq_false notStart _)

theorem advances_inRow (sound : b.Sound) (home : b.mode.isForText = false) (token : Token) :
    Advances token (rounds token .inRow b) b (inRow token) := by
  have table (other : token.starts ["td", "th"] = false) :
      Advances token (rounds token .inRow b) b (inTable token) := by
    refine (advances_inTable sound home token).mono ?_
    simp [rounds, rank, other, load]
  have leave (other : token.starts ["td", "th"] = false) (inside : token.starts ["table"] = false)
      (more : token ≠ .finish) : Advances token (rounds token .inRow b) b (leaveRow token) := by
    refine .askOrIgnore sound fun _ => .retry (sound_closeRow sound) ?_
    have ranked : rank token .inTableBody ≤ 4 := by
      simp only [rank]
      split <;> decide
    simp only [rounds, rank, other, load, inside, more, Bool.false_eq_true, if_false] at ranked ⊢
    omega
  unfold inRow
  split
  next tag =>
    split <;> with_reducible first
      | exact .enter ((sound.popUntilCurrent _).openTag tag).markFormatting
      | exact leave (by simp [Token.starts, ‹tag.name = _›]) (by simp [Token.starts, ‹tag.name = _›]) (by simp)
      | exact table (by simp_all [Token.starts])
  next tag =>
    split <;> with_reducible first
      | exact .askOrIgnore sound fun _ => .enter (sound_closeRow sound)
      | exact leave rfl rfl (by simp)
      | exact .askOrIgnore sound fun _ => leave rfl rfl (by simp)
      | exact .ignore sound
      | exact table rfl
  next notStart _ => exact table (Token.starts_eq_false notStart _)

theorem advances_inCell (sound : b.Sound) (home : b.mode.isForText = false) (token : Token) :
    Advances token (rounds token .inCell b) b (inCell token) := by
  have body : Advances token (rounds token .inCell b) b (inBody token) :=
    advances_inBody_of_rank sound home (by simp [rank])
  have row (inside : token.starts ["table"] = false) (more : token ≠ .finish) :
      rounds token .inRow (closeCell b) < rounds token .inCell b := by
    have ranked : rank token .inRow ≤ 5 := by
      simp only [rank]
      split <;> decide
    simp only [rounds, rank, load, inside, more, Bool.false_eq_true, if_false] at ranked ⊢
    omega
  have leave (inside : token.starts ["table"] = false) (more : token ≠ .finish) :
      Advances token (rounds token .inCell b) b (leaveCell token) :=
    .askOrIgnore sound fun _ => .retry (sound_closeCell sound) (row inside more)
  unfold inCell
  split
  next tag =>
    split <;> with_reducible first
      | exact leave (by simp [Token.starts, ‹tag.name = _›]) (by simp)
      | exact body
  next tag =>
    split <;> with_reducible first
      | exact .askOrIgnore sound fun _ =>
          .enter (sound.closeImplied.popUntilNamed tag.name).clearFormatting
      | exact .ignore sound
      | exact .askOrIgnore sound fun _ => .retry (sound_closeCell sound) (row rfl (by simp))
      | exact body
  · exact body

/-! ## Selection lists, templates and frames -/

section

theorem sound_popIf (sound : b.Sound) (localName : String) : (popIf localName b).Sound :=
  .ite sound.pop sound

theorem sound_closeOptions (sound : b.Sound) : (closeOptions b).Sound :=
  sound_popIf (.ite sound.pop sound) "optgroup"

theorem sound_closeFrameset (sound : b.Sound) : (closeFrameset b).Sound :=
  .ite sound (.ite (sound.pop.transfer rfl rfl rfl rfl rfl) sound.pop)

end

theorem advances_resume (sound : b.Sound) : Advances token limit b resume :=
  .change (sound.transfer rfl rfl rfl rfl rfl)

/-- A list that is closed makes up for whatever the mode outside of it is. -/
theorem advances_resumeWith (sound : b.Sound) (more : token ≠ .finish)
    (closed : 8 * b.opened.length + 8 < limit) : Advances token limit b (resumeWith token) :=
  .ask (.again sound (rounds_lt_of_closed (isForText_modeFor sound) more closed))

theorem advances_inSelect (sound : b.Sound) (home : b.mode.isForText = false) (token : Token) :
    Advances token (rounds token .inSelect b) b (inSelect token) := by
  have head (own : token.isForHead) : Advances token (rounds token .inSelect b) b (inHead token) :=
    advances_inHead_of_isForHead sound home own
  have closed := sound.popUntilNamed "select"
  have leave : Advances token (rounds token .inSelect b) b (leaveSelect resume) :=
    .askOrIgnore sound fun _ => .update (advances_resume closed)
  unfold inSelect
  split
  next content => exact .change (sound.addText content)
  next text => exact .change (sound.addComment text)
  next tag =>
    have leaveWith : Advances (.startTag tag) (rounds (.startTag tag) .inSelect b) b
        (leaveSelect (resumeWith (.startTag tag))) := by
      refine .askOrIgnore sound fun held => .update (advances_resumeWith closed nofun ?_)
      have shorter := length_popUntilNamed_lt (opened_ne_nil held) "select"
      have whole : rounds (.startTag tag) .inSelect b = 1 + 8 * b.opened.length := by
        simp [rounds, rank, load]
      omega
    split <;> with_reducible first
      | exact .mergeRoot sound tag
      | exact .change ((sound_popIf sound "option").openTag tag)
      | exact .change ((sound_popIf (sound_popIf sound "option") "optgroup").openTag tag)
      | exact .change ((sound_popIf (sound_popIf sound "option") "optgroup").addTag tag)
      | exact leave
      | exact leaveWith
      | exact head (isForHead_startTag (by simp [headNames, ‹tag.name = _›]))
      | exact .ignore sound
  next tag =>
    split <;> with_reducible first
      | exact .change (sound_closeOptions sound)
      | exact .change (sound_popIf sound "option")
      | exact leave
      | exact head (isForHead_endTag ‹_›)
      | exact .ignore sound
  · exact advances_inBody_of_rank sound home (by simp [rank])
  · exact .ignore sound

theorem advances_inSelectInTable (sound : b.Sound) (home : b.mode.isForText = false) (token : Token) :
    Advances token (rounds token .inSelectInTable b) b (inSelectInTable token) := by
  have list : Advances token (rounds token .inSelectInTable b) b (inSelect token) :=
    (advances_inSelect sound home token).mono (by simp [rounds, rank, load])
  have closed := sound.popUntilNamed "select"
  have leave (more : token ≠ .finish) : Advances token (rounds token .inSelectInTable b) b (do
      modify fun b => b.popUntilNamed "select"
      resumeWith token) := by
    have whole : rounds token .inSelectInTable b = 2 + 8 * b.opened.length := by
      simp [rounds, rank, load, more]
    by_cases some : b.opened = []
    · -- Nothing is open, and this is like in the body.
      have none : (b.popUntilNamed "select").modeFor = .inBody := by
        simp [Builder.popUntilNamed, Builder.popUntil, Builder.modeFor, some, Builder.modeFor.go]
      have last : rounds token .inBody (b.popUntilNamed "select") = 1 := by
        simp [rounds, rank, load, more]
      exact .update (.ask (.again closed (by rw [none, last, whole]; omega)))
    · have shorter := length_popUntilNamed_lt some "select"
      exact .update (advances_resumeWith closed more (by omega))
  unfold inSelectInTable
  simp only
  split
  · exact .ite (fun _ => leave (by simp)) fun _ => list
  · exact .ite (fun _ => .askOrIgnore sound fun _ => leave (by simp)) fun _ => list
  · exact list

theorem advances_fillTemplate (sound : b.Sound) {mode : Mode} (home : mode.isForText = false)
    (fewer : ∀ later : Builder, rounds token mode later < limit) :
    Advances token limit b (fillTemplate mode token) := by
  refine .retry (sound.enterTemplate ?_) (fewer _)
  exact List.forall_mem_cons.mpr ⟨home, fun mode member =>
    sound.templateModes mode (List.mem_of_mem_tail member)⟩

theorem advances_inTemplate (sound : b.Sound) (home : b.mode.isForText = false) (token : Token) :
    Advances token (rounds token .inTemplate b) b (inTemplate token) := by
  have body : Advances token (rounds token .inTemplate b) b (inBody token) :=
    advances_inBody_of_rank sound home (by simp [rank])
  unfold inTemplate
  split
  · exact body
  · exact body
  next tag =>
    refine .ite (fun own => ?_) fun _ => ?_
    · exact advances_inHead_of_isForHead sound home (isForHead_startTag (by simpa using own))
    · split <;> exact advances_fillTemplate sound rfl fun _ => by
        simp_all [rounds, rank, load, Token.starts]
  next tag =>
    exact .ite (fun own => advances_inHead_of_isForHead sound home (isForHead_endTag own)) fun _ =>
      .ignore sound
  · have whole : rounds .finish .inTemplate b = 8 + 8 * b.templateModes.length := rfl
    exact advances_finishTemplate sound (by omega) (by omega)
  · exact .ignore sound

theorem advances_inFrameset (sound : b.Sound) (home : b.mode.isForText = false) (token : Token) :
    Advances token limit b (inFrameset token) := by
  unfold inFrameset
  split
  next content => exact .ite (fun _ => .change (sound.addText content)) fun _ => .ignore sound
  next text => exact .change (sound.addComment text)
  next tag =>
    split <;> with_reducible first
      | exact .mergeRoot sound tag
      | exact .change (sound.openTag tag)
      | exact .change (sound.addTag tag)
      | exact advances_inHead_of_isForHead sound home
          (isForHead_startTag (by simp [headNames, ‹tag.name = _›]))
      | exact .ignore sound
  · exact .ite (fun _ => .change (sound_closeFrameset sound)) fun _ => .ignore sound
  · exact .ignore sound

end PageFeed.Html.Build
