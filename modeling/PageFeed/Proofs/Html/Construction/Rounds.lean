import PageFeed.Proofs.Html.Construction.Sound

/-! How often a token is looked at. A mode that has no use for a token hands it on to a mode further down
in a fixed order, so that there are few rounds. It is handed back up only when a table, a selection list or
a template has been closed for it, and each time there is one open element or one template less. -/

namespace PageFeed.Html

namespace Token

def isText : Token → Bool
  | .text _ | .null => true
  | _ => false

/-- Whether a token is the start tag of an element of one of some names. -/
def starts (names : List String) : Token → Bool
  | .startTag tag => names.contains tag.name
  | _ => false

def ends (names : List String) : Token → Bool
  | .endTag tag => names.contains tag.name
  | _ => false

theorem starts_eq_false {token : Token} (notStart : ∀ tag, token = .startTag tag → False)
    (names : List String) : token.starts names = false := by
  cases token with
  | startTag tag => exact absurd rfl (notStart tag)
  | _ => rfl

/-- Whether a token is at home in the head alone. -/
def isForHead (token : Token) : Bool := token.starts headNames || token.ends ["template"]

end Token

namespace Build

/-- The place of a mode in the order in which modes hand a token down. Tables hand a part on to the mode for
what lies around it, which makes their order depend on the part. -/
def rank (token : Token) : Mode → Nat
  | .initial => 7
  | .beforeHtml => 6
  | .beforeHead => 5
  | .inHead => 4
  | .afterHead => 3
  | .inBody => 1
  | .inText => 9
  | .inTable => 3
  | .inTableText => if token.isText then 0 else 9
  | .inCaption => 4
  | .inColumnGroup => if token.starts ["col"] then 0 else 4
  | .inTableBody => if token.starts ["td", "th", "tr"] then 2 else 4
  | .inRow => if token.starts ["td", "th"] then 1 else 5
  | .inCell => 6
  | .inSelect => 1
  | .inSelectInTable => 2
  | .inTemplate => 8
  | .afterBody => if token.ends ["html"] then 0 else 2
  | .inFrameset => 0
  | .afterFrameset => 0
  | .afterAfterBody => 3
  | .afterAfterFrameset => 0

/-- What is used up when a token is handed up: templates at the end of a page, and otherwise open elements.
Text that has been collected in a table may open formatting elements again before it comes to that. -/
def load (token : Token) (mode : Mode) (b : Builder) : Nat :=
  if token = .finish then b.templateModes.length
  else
    match mode with
    | .inSelect | .inSelectInTable => b.opened.length
    | .inTable | .inColumnGroup | .inTableBody | .inRow =>
      if token.starts ["table"] then b.opened.length else 0
    | .inTableText =>
      if token.isText then 0 else b.opened.length + b.pending.length * b.formatting.length
    | _ => 0

/-- The most rounds that a token may still take when it is handed to a mode. -/
def rounds (token : Token) (mode : Mode) (b : Builder) : Nat := rank token mode + 8 * load token mode b

section

variable {token : Token} {mode : Mode} {b : Builder}

theorem rank_le (token : Token) (mode : Mode) :
    rank token mode ≤ if mode.isForText then 9 else if mode = .inTemplate then 8 else 7 := by
  cases mode <;> grind [rank, Mode.isForText]

theorem load_le (token : Token) (mode : Mode) (b : Builder) : load token mode b ≤
    b.opened.length + b.pending.length * b.formatting.length + b.templateModes.length := by
  unfold load
  split <;> grind

theorem load_le_opened (home : mode.isForText = false) (more : token ≠ .finish) :
    load token mode b ≤ b.opened.length := by
  unfold load
  split <;> grind [Mode.isForText]

theorem load_mono {later : Builder} (opened : later.opened.length ≤ b.opened.length)
    (formatting : later.formatting = b.formatting) (pending : later.pending = b.pending)
    (templateModes : later.templateModes = b.templateModes) :
    load token mode later ≤ load token mode b := by
  unfold load
  rw [formatting, pending, templateModes]
  split <;> grind

theorem rounds_mono {later : Builder} (opened : later.opened.length ≤ b.opened.length)
    (formatting : later.formatting = b.formatting) (pending : later.pending = b.pending)
    (templateModes : later.templateModes = b.templateModes) :
    rounds token mode later ≤ rounds token mode b :=
  Nat.add_le_add_left (Nat.mul_le_mul_left 8 (load_mono opened formatting pending templateModes)) _

/-- Behind the text in a table any mode for more than text may follow. -/
theorem rounds_lt_of_tableText {later : Builder} (home : mode.isForText = false)
    (other : token.isText = false) (templateModes : later.templateModes = b.templateModes)
    (opened : later.opened.length ≤ b.opened.length + b.pending.length * b.formatting.length) :
    rounds token mode later < rounds token .inTableText b := by
  have ranked := rank_le token mode
  rw [home, if_neg Bool.false_ne_true] at ranked
  have top : rank token .inTableText = 9 := by simp [rank, other]
  have loaded : load token mode later ≤ load token .inTableText b := by
    by_cases finish : token = .finish
    · simp [load, finish, templateModes]
    · have whole : load token .inTableText b =
          b.opened.length + b.pending.length * b.formatting.length := by
        simp [load, finish, other]
      exact whole ▸ Nat.le_trans (load_le_opened home finish) opened
  unfold rounds
  split at ranked <;> omega

/-- The bound on the treatment of a token is above the number of rounds. -/
theorem rounds_lt (token : Token) (mode : Mode) (b : Builder) : rounds token mode b <
    16 + 8 * (b.opened.length + b.pending.length * b.formatting.length + b.templateModes.length) := by
  have ranked := rank_le token mode
  have loaded := load_le token mode b
  unfold rounds
  grind

/-- Any mode for more than text may follow on one in which an open element is closed. -/
theorem rounds_lt_of_closed {limit : Nat} (home : mode.isForText = false) (more : token ≠ .finish)
    (closed : 8 * b.opened.length + 8 < limit) : rounds token mode b < limit := by
  have ranked := rank_le token mode
  have loaded := load_le_opened (b := b) home more
  unfold rounds
  grind

theorem rounds_inBody_le (ranked : 1 ≤ rank token mode) :
    rounds token .inBody b ≤ rounds token mode b := by
  have loaded : load token .inBody b ≤ load token mode b := by
    cases token <;> simp [load]
  have first : rank token .inBody = 1 := rfl
  unfold rounds
  omega

/-! ## Open elements that are closed or opened again -/

theorem opened_ne_nil {bounds : ElementName → Bool} {localName : String}
    (held : b.namedInScope bounds localName) : b.opened ≠ [] := by
  intro none
  simp [Builder.namedInScope, Builder.inScope, none, Builder.inScope.go] at held

theorem length_popUntilNamed_lt (some : b.opened ≠ []) (localName : String) :
    (b.popUntilNamed localName).opened.length < b.opened.length := by
  have closed := (List.dropWhile_sublist (l := b.opened)
    fun id => !(b.nameOf id).among [localName]).length_le
  have positive := List.length_pos_of_ne_nil some
  simp only [Builder.popUntilNamed, Builder.popUntil, List.length_tail]
  omega

/-- What opening formatting elements again leaves alone, and how many elements it opens at most. -/
theorem reopen_fields (b : Builder) (kept entries : List Formatting) :
    (b.reopen kept entries).mode = b.mode ∧
      (b.reopen kept entries).templateModes = b.templateModes ∧
      (b.reopen kept entries).formatting.length = kept.length + entries.length ∧
      (b.reopen kept entries).opened.length ≤ b.opened.length + entries.length := by
  induction entries generalizing b kept with
  | nil => simp [Builder.reopen]
  | cons entry rest step =>
    cases entry with
    | marker =>
      obtain ⟨mode, templateModes, formatting, opened⟩ := step b (.marker :: kept)
      rw [List.length_cons] at formatting ⊢
      exact ⟨mode, templateModes, formatting.trans (by omega), Nat.le_trans opened (by omega)⟩
    | element id tag =>
      have made : (b.openElement (.html tag.name) tag.attrs).2.opened.length = b.opened.length + 1 := rfl
      obtain ⟨mode, templateModes, formatting, opened⟩ :=
        step (b.openElement (.html tag.name) tag.attrs).2
          (.element (b.openElement (.html tag.name) tag.attrs).1 tag :: kept)
      rw [List.length_cons] at formatting ⊢
      exact ⟨mode, templateModes, formatting.trans (by omega), Nat.le_trans opened (by omega)⟩

theorem reopenFormatting_fields (b : Builder) :
    b.reopenFormatting.mode = b.mode ∧ b.reopenFormatting.templateModes = b.templateModes ∧
      b.reopenFormatting.formatting.length = b.formatting.length ∧
      b.reopenFormatting.opened.length ≤ b.opened.length + b.formatting.length := by
  have lost : b.lostFormatting.length ≤ b.formatting.length := (List.takeWhile_sublist _).length_le
  unfold Builder.reopenFormatting
  simp only
  split
  · exact ⟨rfl, rfl, rfl, Nat.le_add_right _ _⟩
  · obtain ⟨mode, templateModes, formatting, opened⟩ :=
      reopen_fields b (b.formatting.drop b.lostFormatting.length) b.lostFormatting.reverse
    rw [List.length_drop, List.length_reverse] at formatting
    rw [List.length_reverse] at opened
    exact ⟨mode, templateModes, by omega, by omega⟩

theorem mode_closeParagraphInScope (b : Builder) : b.closeParagraphInScope.mode = b.mode := by
  unfold Builder.closeParagraphInScope
  split <;> rfl

end

/-! ## Modes to go on in -/

theorem isForText_selectMode (b : Builder) (ids : List NodeId) :
    (Builder.modeFor.selectMode b ids).isForText = false ∧
      Builder.modeFor.selectMode b ids ≠ .inTemplate := by
  induction ids with
  | nil => exact ⟨rfl, nofun⟩
  | cons id outer step =>
    unfold Builder.modeFor.selectMode
    split
    · exact ⟨rfl, nofun⟩
    · split
      · exact ⟨rfl, nofun⟩
      · exact step

theorem isForText_go {b : Builder} (sound : b.Sound) (ids : List NodeId) :
    (Builder.modeFor.go b ids).isForText = false ∧
      (b.templateModes = [] → Builder.modeFor.go b ids ≠ .inTemplate) := by
  induction ids with
  | nil => exact ⟨rfl, nofun⟩
  | cons id outer step =>
    have template : (b.templateModes.head?.getD .inBody).isForText = false ∧
        (b.templateModes = [] → b.templateModes.head?.getD .inBody ≠ .inTemplate) := by
      cases held : b.templateModes with
      | nil => exact ⟨rfl, nofun⟩
      | cons mode modes => exact ⟨sound.templateModes mode (by simp [held]), nofun⟩
    unfold Builder.modeFor.go
    simp only
    split
    · exact ⟨rfl, nofun⟩
    · split
      · exact step
      · split <;> first
          | exact ⟨rfl, nofun⟩
          | exact isForText_selectMode b outer |>.imp_right fun outside _ => outside
          | exact step
          | exact template
          | (split <;> first | exact step | exact ⟨rfl, nofun⟩)

theorem isForText_modeFor {b : Builder} (sound : b.Sound) : b.modeFor.isForText = false :=
  (isForText_go sound b.opened).1

/-- Only within a template do the open elements call for the mode of one. -/
theorem rank_modeFor_le {b : Builder} (sound : b.Sound) (token : Token) :
    rank token b.modeFor ≤ if b.templateModes = [] then 7 else 8 := by
  obtain ⟨home, outside⟩ := isForText_go sound b.opened
  have ranked := rank_le token b.modeFor
  rw [isForText_modeFor sound, if_neg Bool.false_ne_true] at ranked
  by_cases empty : b.templateModes = []
  · have other : b.modeFor ≠ .inTemplate := outside empty
    rw [if_neg other] at ranked
    rwa [if_pos empty]
  · rw [if_neg empty]
    split at ranked <;> omega

/-! ## One round -/

/-- A look at a token leaves the state in order, and if it asks for another one, then for the same token
and with fewer rounds to come than a limit. -/
structure Advances (token : Token) (limit : Nat) (b : Builder) (look : Build Outcome) : Prop where
  sound : (look.run b).2.Sound
  fewer : ∀ mode again, (look.run b).1 = .again mode again →
    again = token ∧ rounds token mode (look.run b).2 < limit

namespace Advances

variable {token : Token} {limit : Nat} {b : Builder} {look : Build Outcome}

theorem mono (advances : Advances token limit b look) {more : Nat} (within : limit ≤ more) :
    Advances token more b look :=
  ⟨advances.sound, fun mode again same =>
    ⟨(advances.fewer mode again same).1, Nat.lt_of_lt_of_le (advances.fewer mode again same).2 within⟩⟩

/-- Without rounds to come it does not matter what the token is. -/
theorem last (advances : Advances token 0 b look) (other : Token) : Advances other limit b look :=
  ⟨advances.sound, fun mode again same => absurd (advances.fewer mode again same).2 (Nat.not_lt_zero _)⟩

theorem done (sound : b.Sound) : Advances token limit b (pure .done) := by
  refine ⟨sound, fun mode again same => ?_⟩
  cases same

theorem readAs (sound : b.Sound) (kind : TextKind) : Advances token limit b (pure (.readAs kind)) := by
  refine ⟨sound, fun mode again same => ?_⟩
  cases same

theorem again (sound : b.Sound) {mode : Mode} (fewer : rounds token mode b < limit) :
    Advances token limit b (pure (.again mode token)) := by
  refine ⟨sound, ?_⟩
  rintro _ _ same
  cases same
  exact ⟨rfl, fewer⟩

theorem ask {next : Builder → Build Outcome} (later : Advances token limit b (next b)) :
    Advances token limit b (get >>= next) := ⟨later.sound, later.fewer⟩

theorem bind {α : Type} {first : Build α} {next : α → Build Outcome}
    (later : Advances token limit (first.run b).2 (next (first.run b).1)) :
    Advances token limit b (first >>= next) := ⟨later.sound, later.fewer⟩

theorem update {f : Builder → Builder} {next : PUnit → Build Outcome}
    (later : Advances token limit (f b) (next ⟨⟩)) : Advances token limit b (modify f >>= next) :=
  .bind later

theorem ite {condition : Prop} [Decidable condition] {other : Build Outcome}
    (first : condition → Advances token limit b look)
    (second : ¬condition → Advances token limit b other) :
    Advances token limit b (if condition then look else other) := by
  split
  next holds => exact first holds
  next fails => exact second fails

/-- A token that the state has no use for is left out. -/
theorem askOrIgnore {isOf : Builder → Bool} {next : Build Outcome} (sound : b.Sound)
    (later : isOf b → Advances token limit b next) :
    Advances token limit b (get >>= fun b => if isOf b then next else Build.ignore) :=
  .ask (.ite later fun _ => .done sound)

/-- What is undone after a look may not add to the rounds. -/
theorem andThen {f : Builder → Builder} (advances : Advances token limit b look)
    (safe : ∀ later : Builder, later.Sound → (f later).Sound)
    (lighter : ∀ mode later, rounds token mode (f later) ≤ rounds token mode later) :
    Advances token limit b (do
      let outcome ← look
      modify f
      return outcome) := by
  refine ⟨safe _ advances.sound, fun mode again same => ?_⟩
  obtain ⟨kept, fewer⟩ := advances.fewer mode again same
  exact ⟨kept, Nat.lt_of_le_of_lt (lighter mode _) fewer⟩

theorem change {f : Builder → Builder} (sound : (f b).Sound) : Advances token limit b (change f) :=
  .update (.done sound)

theorem ignore (sound : b.Sound) : Advances token limit b ignore := .done sound

theorem enter {mode : Mode} {f : Builder → Builder} (sound : (f b).Sound) :
    Advances token limit b (enter mode f) := .change sound

theorem enterOnly (sound : b.Sound) (mode : Mode) : Advances token limit b (Build.enter mode id) :=
  .enter sound

theorem retry {mode : Mode} {f : Builder → Builder} (sound : (f b).Sound)
    (fewer : rounds token mode (f b) < limit) : Advances token limit b (retry mode token f) :=
  .update (.again sound fewer)

theorem openTextOf (sound : b.Sound) (home : b.mode.isForText = false) (kind : TextKind) (tag : Tag) :
    Advances token limit b (openTextOf kind tag) := by
  refine .update (.readAs ?_ kind)
  exact (sound.openTag tag).returnTo home

end Advances

end Build

end PageFeed.Html
