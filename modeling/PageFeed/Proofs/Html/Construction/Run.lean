import PageFeed.Html.Page
import PageFeed.Proofs.Html.Construction.Table

/-! Every token is treated to its end, in whatever mode and in whatever elements it is met, and it leaves
the construction in order; so does every run of tokens. The page that is read from a text therefore has
parents and children that agree. -/

namespace PageFeed.Html

namespace Build

variable {b : Builder} {token : Token} {limit : Nat}

/-! ## Before and after the body -/

theorem advances_initial (sound : b.Sound) (token : Token) :
    Advances token (rounds token .initial b) b (initial token) := by
  have otherwise : Advances token (rounds token .initial b) b
      (retry .beforeHtml token fun b : Builder => { b with isQuirky := true }) := by
    refine .retry (sound.transfer rfl rfl rfl rfl rfl) ?_
    simp [rounds, rank, load]
  unfold initial
  simp only
  split
  · exact .ite (fun _ => .ignore sound) fun _ => otherwise
  next text => exact .change (sound.addCommentToRoot text)
  · exact otherwise

theorem advances_beforeHtml (sound : b.Sound) (token : Token) :
    Advances token (rounds token .beforeHtml b) b (beforeHtml token) := by
  have otherwise : Advances token (rounds token .beforeHtml b) b
      (retry .beforeHead token (·.openRoot [])) := by
    refine .retry (sound.openRoot []) ?_
    simp [rounds, rank, load, Builder.openRoot, Builder.push]
  unfold beforeHtml
  simp only
  split
  · exact .ite (fun _ => .ignore sound) fun _ => otherwise
  next text => exact .change (sound.addCommentToRoot text)
  next tag => exact .ite (fun _ => .enter (sound.openRoot tag.attrs)) fun _ => otherwise
  · exact .ite (fun _ => otherwise) fun _ => .ignore sound
  · exact otherwise

theorem sound_openHead (sound : b.Sound) (attrs : List Attr) : (openHead attrs b).Sound := by
  have opened := sound.openElement (.html "head") attrs
  have inner : (b.openElement (.html "head") attrs).2.document.IsInner
      (b.openElement (.html "head") attrs).1 := sound.addElement_isInner (.html "head") attrs
  refine ⟨opened.linked, opened.opened, ?_, opened.returnMode, opened.templateModes⟩
  intro id same
  exact Option.some.inj same ▸ inner

theorem advances_beforeHead (sound : b.Sound) (token : Token) :
    Advances token (rounds token .beforeHead b) b (beforeHead token) := by
  have otherwise : Advances token (rounds token .beforeHead b) b
      (retry .inHead token (openHead [])) := by
    refine .retry (sound_openHead sound []) ?_
    have templateModes : (openHead [] b).templateModes = b.templateModes := rfl
    simp [rounds, rank, load, templateModes]
  unfold beforeHead
  simp only
  split
  · exact .ite (fun _ => .ignore sound) fun _ => otherwise
  next text => exact .change (sound.addComment text)
  next tag =>
    split <;> with_reducible first
      | exact .mergeRoot sound tag
      | exact .enter (sound_openHead sound tag.attrs)
      | exact otherwise
  · exact .ite (fun _ => otherwise) fun _ => .ignore sound
  · exact otherwise

/-- The head is opened again after it has been closed, which is why a state keeps in order what it
knows as the head. -/
theorem advances_reopenHead (sound : b.Sound) (home : b.mode.isForText = false) (own : token.isForHead) :
    Advances token limit b (reopenHead token) := by
  unfold reopenHead
  refine .ask ?_
  split
  · exact .ignore sound
  next head found =>
    have pushed := sound.push (sound.head head found)
    have looked : Advances token 0 (b.push head) (inHead token) :=
      advances_inHead_of_isForHead pushed home own
    refine .update ?_
    refine (looked.andThen (fun _ later => later.close head) fun mode later => ?_).last token
    have shorter : (later.close head).opened.length ≤ later.opened.length := List.erase_sublist.length_le
    exact rounds_mono shorter rfl rfl rfl

theorem advances_afterHead (sound : b.Sound) (home : b.mode.isForText = false) (token : Token) :
    Advances token (rounds token .afterHead b) b (afterHead token) := by
  have otherwise : Advances token (rounds token .afterHead b) b
      (retry .inBody token (·.openMissing "body")) := by
    refine .retry (sound.openMissing "body") ?_
    have templateModes : (b.openMissing "body").templateModes = b.templateModes := rfl
    simp [rounds, rank, load, templateModes]
  unfold afterHead
  simp only
  split
  next content => exact .ite (fun _ => .change (sound.addText content)) fun _ => otherwise
  next text => exact .change (sound.addComment text)
  next tag =>
    refine .ite (fun own => ?_) fun _ => ?_
    · exact advances_reopenHead sound home (isForHead_startTag (by simpa using own))
    · split <;> with_reducible first
        | exact .mergeRoot sound tag
        | exact .enter (sound_forbidFrameset (sound.openTag tag))
        | exact .enter (sound.openTag tag)
        | exact .ignore sound
        | exact otherwise
  next tag =>
    split <;> with_reducible first
      | exact advances_inHead_of_isForHead sound home (isForHead_endTag ‹_›)
      | exact otherwise
      | exact .ignore sound
  · exact otherwise

theorem advances_inText (sound : b.Sound) (token : Token) :
    Advances token (rounds token .inText b) b (inText token) := by
  unfold inText
  split
  next content => exact .change (sound.addText content)
  · refine .update (.ask (.again sound.pop ?_))
    have ranked := rank_le .finish b.pop.returnMode
    rw [sound.pop.returnMode, if_neg Bool.false_ne_true] at ranked
    change rank .finish b.pop.returnMode + 8 * b.templateModes.length < 9 + 8 * b.templateModes.length
    split at ranked <;> omega
  · exact .change (sound.pop.transfer rfl rfl rfl rfl rfl)
  · exact .ignore sound

theorem sound_addCommentToOutermost (sound : b.Sound) (text : String) :
    (b.addCommentTo (b.outermost?.getD Document.rootId) text).Sound :=
  sound.addCommentTo (sound.getD_lt_size _ fun _ found => List.mem_of_getLast? found) text

theorem advances_afterBody (sound : b.Sound) (home : b.mode.isForText = false) (token : Token) :
    Advances token (rounds token .afterBody b) b (afterBody token) := by
  have back (other : token.ends ["html"] = false) :
      Advances token (rounds token .afterBody b) b (pure (.again .inBody token)) :=
    .again sound (by simp [rounds, rank, load, other])
  unfold afterBody
  split
  · exact .ite (fun _ => advances_inBody_of_rank sound home (by simp [rank, Token.ends])) fun _ => back rfl
  next text => exact .change (sound_addCommentToOutermost sound text)
  · exact .ite (fun _ => .mergeRoot sound _) fun _ => back rfl
  next tag =>
    refine .ite (fun _ => .change (.ite sound (sound.transfer rfl rfl rfl rfl rfl))) fun other => ?_
    exact back (by simpa [Token.ends] using other)
  · exact .ignore sound
  next notEnd _ => exact back (by cases token <;> first | rfl | exact absurd rfl (notEnd _))

theorem advances_afterFrameset (sound : b.Sound) (home : b.mode.isForText = false) (token : Token) :
    Advances token limit b (afterFrameset token) := by
  unfold afterFrameset
  split
  next content => exact .ite (fun _ => .change (sound.addText content)) fun _ => .ignore sound
  next text => exact .change (sound.addComment text)
  next tag =>
    split <;> with_reducible first
      | exact .mergeRoot sound tag
      | exact advances_inHead_of_isForHead sound home
          (isForHead_startTag (by simp [headNames, ‹tag.name = _›]))
      | exact .ignore sound
  · exact .ite (fun _ => .enterOnly sound _) fun _ => .ignore sound
  · exact .ignore sound

theorem advances_afterAfterBody (sound : b.Sound) (home : b.mode.isForText = false) (token : Token) :
    Advances token (rounds token .afterAfterBody b) b (afterAfterBody token) := by
  have back : Advances token (rounds token .afterAfterBody b) b (pure (.again .inBody token)) :=
    .again sound (by simp [rounds, rank, load])
  unfold afterAfterBody
  split
  · exact .ite (fun _ => advances_inBody_of_rank sound home (by simp [rank])) fun _ => back
  next text => exact .change (sound.addCommentToRoot text)
  · exact .ite (fun _ => .mergeRoot sound _) fun _ => back
  · exact .ignore sound
  · exact back

theorem advances_afterAfterFrameset (sound : b.Sound) (home : b.mode.isForText = false) (token : Token) :
    Advances token limit b (afterAfterFrameset token) := by
  unfold afterAfterFrameset
  split
  next content =>
    exact .ite (fun _ => .change (sound_addTextInBody sound content)) fun _ => .ignore sound
  next text => exact .change (sound.addCommentToRoot text)
  next tag =>
    split <;> with_reducible first
      | exact .mergeRoot sound tag
      | exact advances_inHead_of_isForHead sound home
          (isForHead_startTag (by simp [headNames, ‹tag.name = _›]))
      | exact .ignore sound
  · exact .ignore sound

theorem advances_inMode (sound : b.Sound) (token : Token) :
    Advances token (rounds token b.mode b) b (inMode b.mode token) := by
  cases mode : b.mode with
  | inText => exact advances_inText sound token
  | inTableText => exact advances_inTableText sound token
  | initial => exact advances_initial sound token
  | beforeHtml => exact advances_beforeHtml sound token
  | beforeHead => exact advances_beforeHead sound token
  | inHead =>
    refine advances_inHead sound (by simp [mode, Mode.isForText]) fun _ => ?_
    simp [rounds, rank, load, Builder.pop]
  | afterHead => exact advances_afterHead sound (by simp [mode, Mode.isForText]) token
  | inBody => exact advances_inBody sound (by simp [mode, Mode.isForText]) token
  | inTable => exact advances_inTable sound (by simp [mode, Mode.isForText]) token
  | inCaption => exact advances_inCaption sound (by simp [mode, Mode.isForText]) token
  | inColumnGroup => exact advances_inColumnGroup sound (by simp [mode, Mode.isForText]) token
  | inTableBody => exact advances_inTableBody sound (by simp [mode, Mode.isForText]) token
  | inRow => exact advances_inRow sound (by simp [mode, Mode.isForText]) token
  | inCell => exact advances_inCell sound (by simp [mode, Mode.isForText]) token
  | inSelect => exact advances_inSelect sound (by simp [mode, Mode.isForText]) token
  | inSelectInTable => exact advances_inSelectInTable sound (by simp [mode, Mode.isForText]) token
  | inTemplate => exact advances_inTemplate sound (by simp [mode, Mode.isForText]) token
  | afterBody => exact advances_afterBody sound (by simp [mode, Mode.isForText]) token
  | inFrameset => exact advances_inFrameset sound (by simp [mode, Mode.isForText]) token
  | afterFrameset => exact advances_afterFrameset sound (by simp [mode, Mode.isForText]) token
  | afterAfterBody => exact advances_afterAfterBody sound (by simp [mode, Mode.isForText]) token
  | afterAfterFrameset => exact advances_afterAfterFrameset sound (by simp [mode, Mode.isForText]) token

/-! ## Foreign elements -/

theorem advances_breakOut (sound : b.Sound) (token : Token) :
    Advances token (rounds token b.mode b) b (breakOut token) := by
  have closed := sound.popUntilCurrent fun name =>
    name.vocabulary == .html || name.holdsMathText || name.holdsHtml
  have shorter : (b.popUntilCurrent fun name => name.vocabulary == .html || name.holdsMathText ||
      name.holdsHtml).opened.length ≤ b.opened.length := (List.dropWhile_sublist _).length_le
  exact .update (.ask ((advances_inMode closed token).mono (rounds_mono shorter rfl rfl rfl)))

/-- The search for the element to close leaves the state alone until it is found, so what it leaves
open was open before. -/
theorem advances_closeForeign (sound : b.Sound) (tag : Tag) (first : Bool) (ids : List NodeId)
    (kept : ids ⊆ b.opened) :
    Advances (.endTag tag) (rounds (.endTag tag) b.mode b) b (closeForeign tag first ids) := by
  induction ids generalizing first with
  | nil => exact .ignore sound
  | cons id outer step =>
    have later : outer ⊆ b.opened := fun _ member => kept (List.mem_cons_of_mem id member)
    cases outer with
    | nil => exact .ignore sound
    | cons next rest =>
      unfold closeForeign
      refine .ask (.ite (fun _ => .ask (advances_inMode sound _)) fun _ => .ite (fun _ => ?_) fun _ => ?_)
      · exact .change (sound.narrow _ later)
      · exact step false later

theorem sound_addWithinCurrent (sound : b.Sound) (tag : Tag) : (addWithinCurrent tag b).Sound := by
  unfold addWithinCurrent
  split
  · exact sound.addWithinForeign _ tag
  · exact sound

theorem advances_inForeign (sound : b.Sound) (token : Token) :
    Advances token (rounds token b.mode b) b (inForeign token) := by
  unfold inForeign
  split
  · exact .change (sound.addText _)
  next content => exact .change ((Builder.Sound.ite sound (sound_forbidFrameset sound)).addText content)
  next text => exact .change (sound.addComment text)
  next tag =>
    exact .ite (fun _ => advances_breakOut sound _) fun _ => .change (sound_addWithinCurrent sound tag)
  next tag =>
    exact .ite (fun _ => advances_breakOut sound _) fun _ =>
      .ask (advances_closeForeign sound tag true b.opened (List.Subset.refl _))
  · exact .ignore sound

/-- Every look at a token in a state in order leaves one in order, and is the last one or has fewer rounds
to come. -/
theorem advances_step (sound : b.Sound) (token : Token) :
    Advances token (rounds token b.mode b) b (step token) :=
  .ask (.ite (fun _ => advances_inForeign sound token) fun _ => advances_inMode sound token)

/-! ## Whole tokens -/

/-- A token that is looked at until nothing is left to do about it, however often that is: what follows it
is text of a kind, and the construction is in some state. -/
inductive Settles : Token → Builder → TextKind → Builder → Prop
  | done {token : Token} {b later : Builder} (look : (step token).run b = (.done, later)) :
    Settles token b .markup later
  | readAs {token : Token} {b later : Builder} {kind : TextKind}
    (look : (step token).run b = (.readAs kind, later)) : Settles token b kind later
  | again {token next : Token} {b later last : Builder} {mode : Mode} {kind : TextKind}
    (look : (step token).run b = (.again mode next, later))
    (rest : Settles next { later with mode } kind last) : Settles token b kind last

theorem run_settle (times : Nat) (token : Token) (b : Builder) : (settle (times + 1) token).run b =
    match (step token).run b with
    | (.done, later) => (.markup, later)
    | (.readAs kind, later) => (kind, later)
    | (.again mode next, later) => (settle times next).run { later with mode } := by
  rw [settle, StateT.run_bind]
  obtain ⟨outcome, later⟩ := (step token).run b
  cases outcome <;> rfl

/-- As many looks as there are rounds are enough. -/
theorem settles_settle (sound : b.Sound) (token : Token) {times : Nat}
    (enough : rounds token b.mode b < times) :
    Settles token b ((settle times token).run b).1 ((settle times token).run b).2 ∧
      ((settle times token).run b).2.Sound := by
  induction times generalizing b with
  | zero => exact absurd enough (Nat.not_lt_zero _)
  | succ times ih =>
    obtain ⟨kept, fewer⟩ := advances_step sound token
    cases look : (step token).run b with
    | mk outcome later =>
      rw [look] at kept fewer
      rw [run_settle, look]
      cases outcome with
      | done => exact ⟨.done look, kept⟩
      | readAs kind => exact ⟨.readAs look, kept⟩
      | again mode next =>
        obtain ⟨rfl, less⟩ := fewer mode next rfl
        have moved : Builder.Sound { later with mode } := kept.transfer rfl rfl rfl rfl rfl
        obtain ⟨rest, last⟩ := ih moved (Nat.lt_of_lt_of_le less (Nat.le_of_lt_succ enough))
        exact ⟨.again look rest, last⟩

/-- In a state in order every token is treated to its end: the bound on the number of looks is not met. -/
theorem settles_treat (sound : b.Sound) (token : Token) :
    Settles token b ((treat token).run b).1 ((treat token).run b).2 ∧
      ((treat token).run b).2.Sound := settles_settle sound token (rounds_lt token b.mode b)

theorem sound_treatDoctype (sound : b.Sound) (declaration : Doctype) :
    ((treatDoctype declaration).run b).2.Sound := by
  change Builder.Sound (if b.mode = .initial then _ else b)
  split
  · have created := sound.linked.create (.doctype (declaration.name.getD ""))
    have inner := sound.linked.isInner_create (.doctype (declaration.name.getD ""))
    have pos := created.size_pos
    exact sound.grow (created.append inner pos) (by simp)
  · exact sound

theorem sound_treatRuns (sound : b.Sound) (runs : List (List Char)) :
    ((treatRuns runs).run b).2.Sound := by
  induction runs generalizing b with
  | nil => exact sound
  | cons run rest step => exact step (settles_treat sound (.text run)).2

theorem sound_take (sound : b.Sound) (token : Token) : ((take token).run b).2.Sound := by
  have reset : Builder.Sound { b with dropsLineFeed := false } := sound.transfer rfl rfl rfl rfl rfl
  cases token with
  | slip => exact reset
  | doctype declaration => exact sound_treatDoctype reset declaration
  | text content => exact sound_treatRuns reset _
  | _ => exact (settles_treat reset _).2

end Build

namespace Progress

theorem sound_take (progress : Progress) (token : Token) (sound : progress.builder.Sound) :
    (progress.take token).builder.Sound := by
  have kept := Build.sound_take sound token
  unfold take
  generalize (Build.take token).run progress.builder = treated at kept
  cases token <;> exact kept

theorem sound_foldl_take (tokens : List Token) (progress : Progress)
    (sound : progress.builder.Sound) : (tokens.foldl take progress).builder.Sound := by
  induction tokens generalizing progress with
  | nil => exact sound
  | cons token rest step => exact step _ (progress.sound_take token sound)

theorem sound_takeAll (rounds : Nat) (progress : Progress) (text : List Char)
    (sound : progress.builder.Sound) : (takeAll rounds progress text).builder.Sound := by
  induction rounds generalizing progress text with
  | zero => exact sound
  | succ rounds step =>
    cases text with
    | nil => exact sound
    | cons c rest => exact step _ _ (sound_foldl_take _ progress sound)

theorem sound_takePage (progress : Progress) (text : List Char) (sound : progress.builder.Sound) :
    (takePage progress text).Sound :=
  sound_take _ .finish (sound_takeAll _ progress text sound)

end Progress

/-- In every page that is read from a text, parents and children agree. -/
theorem linked_parse (source : String) : (parse source).Linked := by
  have start : Builder.Sound {} := ⟨Document.linked_blank, by simp, by simp, rfl, by simp⟩
  exact (Progress.sound_takePage _ (prepare source) start).linked

end PageFeed.Html
