import PageFeed.Proofs.Moment.Shape
import PageFeed.Proofs.Moment.Writing
import PageFeed.Proofs.Text.Blank

/-! Dates in every layout are read as they were written. Forms of dates are tried in a fixed order, so
none of them may take for its own what is written in a later layout, unless it reads the same moment
there. That is decided from the shapes of the forms and the kinds of characters of the layouts. -/

namespace PageFeed.Moment

open Text (padded isBlank isDigit number? number?_padded kind Kind mayFit Runs)

/-! ## Moments of layouts -/

/-- What has to be supplied to what is read in a layout. -/
inductive Zoning
  | zoned
  | unzoned
  | dateAlone
deriving DecidableEq

/-- The moment that parts name. -/
def Zoning.name? : Zoning → Parts → Option Moment
  | zoned => Parts.moment?
  | unzoned => Parts.utc?
  | dateAlone => Parts.midnight?

/-- All layouts in the order in which they are tried. -/
def stages : List (Zoning × Layout) :=
  zonedLayouts.map (.zoned, ·) ++ localLayouts.map (.unzoned, ·) ++ dateLayouts.map (.dateAlone, ·)

/-- Reads a text in the layout of a stage. -/
def readStage? (text : List Char) (stage : Zoning × Layout) : Option Moment :=
  (stage.2.read? text).bind stage.1.name?

theorem Layout.second_note (layout : Layout) (moment : Moment) (parts : Parts) :
    (layout.note moment parts).second =
      if .second ∈ layout then some moment.clock.second else parts.second := by
  induction layout generalizing parts with
  | nil => rfl
  | cons item layout ih =>
    change (note layout moment (item.note moment parts)).second = _
    rw [ih]
    by_cases inRest : .second ∈ layout
    · simp [inRest]
    · cases item <;> simp [Item.note, inRest]

section Notes

variable {layout : Layout} {moment : Moment}

theorem Layout.Expresses.second_note (expressed : layout.Expresses moment) :
    (layout.note moment {}).second.getD 0 = moment.clock.second := by
  rw [Layout.second_note]
  split
  · rfl
  · next none => exact (expressed.second none).symm

theorem moment?_note (isLayout : layout ∈ zonedLayouts) (expressed : layout.Expresses moment) :
    (layout.note moment {}).moment? = some moment := by
  have second := expressed.second_note
  have fraction := expressed.fraction.symm
  simp only [zonedLayouts, List.mem_cons, List.not_mem_nil, or_false] at isLayout
  rcases isLayout with rfl | rfl | rfl | rfl | rfl
  all_goals
    exact Parts.moment?_eq_some (Parts.date?_eq rfl rfl rfl rfl)
      (Parts.clock?_eq rfl rfl second fraction) rfl

theorem utc?_note (isLayout : layout ∈ localLayouts) (expressed : layout.Expresses moment) :
    (layout.note moment {}).utc? = some moment := by
  have second := expressed.second_note
  have fraction := expressed.fraction.symm
  have universal : ∀ layout ∈ localLayouts, .offset ∉ layout := by decide
  have offset := expressed.offset (universal layout isLayout)
  simp only [localLayouts, List.mem_cons, List.not_mem_nil, or_false] at isLayout
  rcases isLayout with rfl | rfl | rfl | rfl | rfl | rfl | rfl | rfl
  all_goals
    exact Parts.utc?_eq (Parts.date?_eq rfl rfl rfl rfl) (Parts.clock?_eq rfl rfl second fraction)
      offset

theorem midnight?_note (isLayout : layout ∈ dateLayouts) (expressed : layout.Expresses moment) :
    (layout.note moment {}).midnight? = some moment := by
  have noClock : ∀ layout ∈ dateLayouts, .hour ∉ layout ∧ .offset ∉ layout := by decide
  have clock := expressed.clock (noClock layout isLayout).1
  have offset := expressed.offset (noClock layout isLayout).2
  simp only [dateLayouts, List.mem_cons, List.not_mem_nil, or_false] at isLayout
  rcases isLayout with rfl | rfl | rfl | rfl | rfl | rfl | rfl | rfl | rfl
  all_goals exact Parts.midnight?_eq (Parts.date?_eq rfl rfl rfl rfl) clock offset

end Notes

/-- What is written in a layout is known well enough to name the moment. -/
theorem name?_note {stage : Zoning × Layout} (isStage : stage ∈ stages) {moment : Moment}
    (expressed : stage.2.Expresses moment) :
    stage.1.name? (stage.2.note moment {}) = some moment := by
  rcases List.mem_append.1 isStage with isStage | isDate
  · rcases List.mem_append.1 isStage with isZoned | isLocal
    · obtain ⟨layout, isLayout, rfl⟩ := List.mem_map.1 isZoned
      exact moment?_note isLayout expressed
    · obtain ⟨layout, isLayout, rfl⟩ := List.mem_map.1 isLocal
      exact utc?_note isLayout expressed
  · obtain ⟨layout, isLayout, rfl⟩ := List.mem_map.1 isDate
    exact midnight?_note isLayout expressed

/-! ## The order of layouts -/

/-- Whether what is written in a later layout is refused in an earlier one, or read there as the
same. -/
def Respects (earlier later : Zoning × Layout) : Prop :=
  mayFit earlier.2.shape (none, later.2.word) = false ∨
    earlier.1 = later.1 ∧ earlier.2.reads later.2 = true

instance (earlier later : Zoning × Layout) : Decidable (Respects earlier later) :=
  inferInstanceAs (Decidable (_ ∨ _))

theorem pairwise_stages : stages.Pairwise Respects := by decide +kernel

theorem stage_reads_itself :
    ∀ stage ∈ stages, stage.2.reads stage.2 = true ∧ stage.2.word.IsChain (· ≠ ·) := by
  decide +kernel

theorem readStage?_write_of_reads {reader stage : Zoning × Layout} (isStage : stage ∈ stages)
    (same : reader.1 = stage.1) (reads : reader.2.reads stage.2 = true) {moment : Moment}
    (expressed : stage.2.Expresses moment) :
    readStage? (stage.2.write moment) reader = some moment := by
  rw [readStage?, Layout.read?_write expressed.year reads (stage_reads_itself stage isStage).2,
    Option.bind_some, same, name?_note isStage expressed]

theorem readStage?_write_of_respects {earlier stage : Zoning × Layout} (isStage : stage ∈ stages)
    (respects : Respects earlier stage) {moment : Moment} (expressed : stage.2.Expresses moment) :
    readStage? (stage.2.write moment) earlier = none ∨
      readStage? (stage.2.write moment) earlier = some moment := by
  rcases respects with never | ⟨same, reads⟩
  · cases read : earlier.2.read? (stage.2.write moment) with
    | none => exact .inl (by rw [readStage?, read, Option.bind_none])
    | some parts =>
      have runs := Layout.runs_write expressed.year stage.2
      exact absurd (Layout.fits_of_read? read) (Text.not_fits_of_runs runs never)
  · exact .inr (readStage?_write_of_reads isStage same reads expressed)

/-- The first of several attempts to succeed gives what one of them gives, if all before that one
fail or give the same. -/
theorem findSome?_eq_of_pairwise {α β : Type} {attempt : α → Option β} {agrees : α → α → Prop}
    {attempts : List α} (pairwise : attempts.Pairwise agrees) {one : α} (isOne : one ∈ attempts)
    {outcome : β} (succeeds : attempt one = some outcome)
    (before : ∀ earlier, agrees earlier one →
      attempt earlier = none ∨ attempt earlier = some outcome) :
    attempts.findSome? attempt = some outcome := by
  induction attempts with
  | nil => exact absurd isOne List.not_mem_nil
  | cons first attempts ih =>
    obtain ⟨firstAgrees, pairwise⟩ := List.pairwise_cons.1 pairwise
    rw [List.findSome?_cons]
    rcases List.mem_cons.1 isOne with rfl | isLater
    · rw [succeeds]
    · rcases before first (firstAgrees one isLater) with fails | same
      · rw [fails]
        exact ih pairwise isLater
      · rw [same]

theorem findSome?_stages_write {stage : Zoning × Layout} (isStage : stage ∈ stages) {moment : Moment}
    (expressed : stage.2.Expresses moment) :
    stages.findSome? (readStage? (stage.2.write moment)) = some moment :=
  findSome?_eq_of_pairwise pairwise_stages isStage
    (readStage?_write_of_reads isStage rfl (stage_reads_itself stage isStage).1 expressed)
    fun _ respects => readStage?_write_of_respects isStage respects expressed

/-! ## The standard forms -/

theorem internet_respects :
    ∀ stage ∈ stages, ∀ shape ∈ internetShapes, mayFit shape (none, stage.2.word) = false := by
  decide +kernel

/-- Nothing that is written in a layout is a timestamp. -/
theorem internet?_layout {stage : Zoning × Layout} (isStage : stage ∈ stages) {moment : Moment}
    (expressed : stage.2.Expresses moment) : internet? (stage.2.write moment) = none := by
  cases read : internet? (stage.2.write moment) with
  | none => rfl
  | some _ =>
    obtain ⟨shape, isShape, fits⟩ := exists_fits_of_internet? read
    have never := internet_respects stage isStage shape isShape
    exact absurd fits (Text.not_fits_of_runs (Layout.runs_write expressed.year stage.2) never)

/-- The layout of a mail date behind its weekday. -/
def mailLayout : Layout :=
  [.day, .blanks, .monthShort, .blanks, .year, .blanks] ++ hourMinuteSecond ++ [.blanks, .offset]

/-- The layout of a weekday in front of a mail date. -/
def weekdayLayout : Layout := [.weekdayShort, .literal ',', .blanks]

/-- Two layouts are those of mail dates. What is written in another one is no mail date. -/
theorem mail_respects :
    ∀ stage ∈ stages, mayFit mailShape (none, stage.2.word) = false ∨
      stage.2 = mailLayout ∨ stage.2 = weekdayLayout ++ mailLayout := by
  decide +kernel

theorem mailZone?_writeZone (moment : Moment) :
    mailZone? (writeZone moment.offset) = some (moment.offset, []) := by
  have zone := @offset?_writeZone moment.offset moment.offsetBounded false some [] rfl
  rw [List.append_nil] at zone
  have noName : (writeZone moment.offset).takeWhile Char.isAlpha = [] := by
    unfold writeZone
    split <;> rfl
  rw [mailZone?, noName]
  exact zone

theorem dropComments_nil : dropComments [] = [] := by
  rw [dropComments]
  rfl

theorem optionalSecond?_padded {second : Nat} (fits : second < 100) (rest : List Char) :
    optionalSecond? (':' :: (padded 2 second ++ rest)) = some (some second, rest) := by
  have read := number?_padded (show 2 ≤ 2 by decide) (by decide) fits rest
  rw [optionalSecond?, skipBlanks_eq_self (endsBlanks_cons (by decide) _), char?, if_pos rfl]
  simp only [read, Option.map_some]

/-- Digits are not the name of a weekday. -/
theorem optionalWeekday?_of_digit {text : List Char} (starts : text.head?.map kind = some .digit) :
    optionalWeekday? text = some (none, text) := by
  cases read : shortName? weekdayNames text with
  | none => simp only [optionalWeekday?, read]
  | some found =>
    obtain ⟨taken, rfl, filled, kinds⟩ :=
      Text.fitsUpTo_one_iff.1 (areDistinct_weekdayNames.fitsUpTo_shortName? read)
    obtain ⟨c, taken, rfl⟩ := List.exists_cons_of_ne_nil filled
    have letter : some (kind c) = some .digit := starts
    rw [kinds c List.mem_cons_self] at letter
    cases letter

section Mail

variable {moment : Moment} (within : 0 ≤ moment.date.year ∧ moment.date.year ≤ 9999)

include within

theorem someBlanks?_write (layout : Layout) (starts : layout.word.head? ≠ some .blank) :
    someBlanks? (' ' :: layout.write moment) = some (layout.write moment) := by
  have blank : EndsBlanks (layout.write moment) :=
    endsBlanks_of_kind ((Layout.runs_write within layout).head?.symm ▸ starts)
  rw [someBlanks?, if_pos Text.isBlank_space, skipBlanks_eq_self blank]

/-- A year of four digits is taken as it is. -/
theorem number?_year {text rest : List Char} (written : text = writeYear moment.date.year ++ rest)
    (ends : Text.EndsDigits rest) :
    number? 2 none text = some (moment.date.year.toNat, rest) ∧
      mailYear (text.length - rest.length) moment.date.year.toNat = moment.date.year.toNat := by
  have size : (padded 4 moment.date.year.toNat).length = 4 :=
    Text.length_padded (by decide) (by omega)
  have digits := Text.takeWhile_isDigit_append
    (fun c (isMember : c ∈ padded 4 moment.date.year.toNat) => Text.isDigit_of_mem_padded c isMember)
    ends
  rw [written, writeYear, if_pos within]
  constructor
  · simp only [number?, Text.spanDigits, digits, List.drop_left, Text.decimal_padded]
    rw [if_neg (by omega)]
  · rw [List.length_append, size, Nat.add_sub_cancel]
    rfl

section Weekday

variable {text behind : List Char} {weekday : Option Nat}
  (weekdayRead : optionalWeekday? (skipBlanks text) = some (weekday, behind))
  (left : skipBlanks behind = mailLayout.write moment)

include weekdayRead left

/-- Behind the weekday, if there is one, the parts of a mail date are read as they are written. -/
theorem mailParts?_of_weekday : mailParts? text = some {
    year := some moment.date.year, month := some moment.date.month, day := some moment.date.day
    hour := some moment.clock.hour, minute := some moment.clock.minute
    second := some moment.clock.second, weekday, offset := some moment.offset } := by
  have dayFits := moment.date.day_le
  have clockFits := moment.clock.inDay
  have sameMonth : moment.date.month - 1 + 1 = moment.date.month :=
    Nat.sub_add_cancel moment.date.one_le_month
  have sameYear : (moment.date.year.toNat : Int) = moment.date.year := by omega
  have two {least n : Nat} (few : least ≤ 2) (fits : n < 100) (rest : List Char) :
      number? least (some 2) (padded 2 n ++ rest) = some (n, rest) :=
    number?_padded few (by decide) fits rest
  have skips (n : Nat) (rest : List Char) : skipBlanks (padded 2 n ++ rest) = padded 2 n ++ rest :=
    skipBlanks_eq_self (endsBlanks_padded 2 n rest)
  -- what is left behind the day, the month, the year and the time of day
  have dayEnd := someBlanks?_write within (mailLayout.drop 2) (by decide)
  have monthEnd := someBlanks?_write within (mailLayout.drop 4) (by decide)
  have yearEnd := someBlanks?_write within (mailLayout.drop 6) (by decide)
  have clockEnd := someBlanks?_write within (mailLayout.drop 12) (by decide)
  have day := two (show 1 ≤ 2 by decide) (show moment.date.day < 100 by omega)
    (' ' :: Layout.write (mailLayout.drop 2) moment)
  have month := shortName?_append areDistinct_monthNames.1 areDistinct_monthNames.2
    moment.date.pred_month_lt (' ' :: Layout.write (mailLayout.drop 4) moment)
  have yearWritten : Layout.write (mailLayout.drop 4) moment =
      writeYear moment.date.year ++ ' ' :: Layout.write (mailLayout.drop 6) moment := rfl
  obtain ⟨year, yearKept⟩ := number?_year within yearWritten (Text.endsDigits_cons (by decide) _)
  have hour := two (Nat.le_refl 2) (show moment.clock.hour < 100 by omega)
    (Layout.write (mailLayout.drop 7) moment)
  have minute := two (Nat.le_refl 2) (show moment.clock.minute < 100 by omega)
    (Layout.write (mailLayout.drop 9) moment)
  have second := optionalSecond?_padded (show moment.clock.second < 100 by omega)
    (' ' :: Layout.write (mailLayout.drop 12) moment)
  have zone : mailZone? (Layout.write (mailLayout.drop 12) moment) = some (moment.offset, []) := by
    rw [← mailZone?_writeZone moment, ← List.append_nil (writeZone moment.offset)]
    rfl
  rw [← skips] at minute
  have begins : skipBlanks behind =
      padded 2 moment.date.day ++ ' ' :: Layout.write (mailLayout.drop 2) moment := left
  rw [← begins] at day
  -- the steps of the reader in turn
  refine Option.bind_eq_some_iff.2 ⟨_, weekdayRead, Option.bind_eq_some_iff.2 ⟨_, day, ?_⟩⟩
  refine Option.bind_eq_some_iff.2 ⟨_, dayEnd, Option.bind_eq_some_iff.2 ⟨_, month, ?_⟩⟩
  refine Option.bind_eq_some_iff.2 ⟨_, monthEnd, Option.bind_eq_some_iff.2 ⟨_, year, ?_⟩⟩
  refine Option.bind_eq_some_iff.2 ⟨_, yearEnd, Option.bind_eq_some_iff.2 ⟨_, hour, ?_⟩⟩
  refine Option.bind_eq_some_iff.2 ⟨_, rfl, Option.bind_eq_some_iff.2 ⟨_, minute, ?_⟩⟩
  refine Option.bind_eq_some_iff.2 ⟨_, second, Option.bind_eq_some_iff.2 ⟨_, clockEnd, ?_⟩⟩
  refine Option.bind_eq_some_iff.2 ⟨_, zone, ?_⟩
  simp only [dropComments_nil, List.isEmpty_nil, if_true, yearKept, sameYear, sameMonth]

theorem mail?_of_weekday (whole : moment.clock.nanosecond = 0)
    (right : weekday.getD moment.date.weekday = moment.date.weekday) : mail? text = some moment := by
  rw [mail?, mailParts?_of_weekday within weekdayRead left, Option.bind_some]
  exact Parts.moment?_eq_some (Parts.date?_eq rfl rfl rfl right)
    (Parts.clock?_eq rfl rfl rfl whole.symm) rfl

end Weekday

theorem mail?_mailLayout (whole : moment.clock.nanosecond = 0) :
    mail? (mailLayout.write moment) = some moment := by
  have starts : (mailLayout.write moment).head?.map kind = some .digit :=
    (Layout.runs_write within mailLayout).head?
  have skips : skipBlanks (mailLayout.write moment) = mailLayout.write moment :=
    skipBlanks_eq_self (endsBlanks_of_kind (by rw [starts]; decide))
  have noWeekday : optionalWeekday? (skipBlanks (mailLayout.write moment)) =
      some (none, mailLayout.write moment) := by rw [skips, optionalWeekday?_of_digit starts]
  exact mail?_of_weekday within noWeekday skips whole rfl

theorem mail?_weekdayLayout (whole : moment.clock.nanosecond = 0) :
    mail? ((weekdayLayout ++ mailLayout).write moment) = some moment := by
  have starts : (mailLayout.write moment).head?.map kind = some .digit :=
    (Layout.runs_write within mailLayout).head?
  have skips : skipBlanks (' ' :: mailLayout.write moment) = mailLayout.write moment := by
    rw [skipBlanks, List.dropWhile_cons_of_pos Text.isBlank_space]
    exact skipBlanks_eq_self (endsBlanks_of_kind (by rw [starts]; decide))
  have begins : skipBlanks ((weekdayLayout ++ mailLayout).write moment) =
      (nameAt weekdayNames moment.date.weekday).1 ++ ',' :: ' ' :: mailLayout.write moment := by
    refine skipBlanks_eq_self (endsBlanks_of_kind ?_)
    rw [(Layout.runs_write within _).head?]
    decide
  have name := shortName?_append areDistinct_weekdayNames.1 areDistinct_weekdayNames.2
    moment.date.weekday_lt (',' :: ' ' :: mailLayout.write moment)
  have weekday : optionalWeekday? (skipBlanks ((weekdayLayout ++ mailLayout).write moment)) =
      some (some moment.date.weekday, ' ' :: mailLayout.write moment) := by
    simp only [begins, optionalWeekday?, name]
    rfl
  exact mail?_of_weekday within weekday skips whole rfl

end Mail

/-- Nothing that is written in a layout is another mail date. -/
theorem mail?_layout {stage : Zoning × Layout} (isStage : stage ∈ stages) {moment : Moment}
    (expressed : stage.2.Expresses moment) :
    mail? (stage.2.write moment) = none ∨ mail? (stage.2.write moment) = some moment := by
  rcases mail_respects stage isStage with never | isMail | isMail
  · cases read : mail? (stage.2.write moment) with
    | none => exact .inl rfl
    | some _ =>
      have runs := Layout.runs_write expressed.year stage.2
      exact absurd (fits_of_mail? read) (Text.not_fits_of_runs runs never)
  · exact .inr (isMail ▸ mail?_mailLayout expressed.year expressed.fraction)
  · exact .inr (isMail ▸ mail?_weekdayLayout expressed.year expressed.fraction)

/-! ## Texts -/

theorem firstLayout?_eq (zoning : Zoning) (layouts : List Layout) (text : List Char) :
    firstLayout? zoning.name? layouts text =
      (layouts.map (zoning, ·)).findSome? (readStage? text) := by
  rw [firstLayout?, List.findSome?_map]
  rfl

/-- The stages are tried one after the other behind the standard forms. -/
theorem readTrimmed?_eq {text : List Char} (filled : text ≠ []) :
    readTrimmed? text =
      ((internet? text).or (mail? text)).or (stages.findSome? (readStage? text)) := by
  rw [readTrimmed?, if_neg (by rwa [List.isEmpty_iff]), stages, List.findSome?_append,
    List.findSome?_append, ← firstLayout?_eq, ← firstLayout?_eq, ← firstLayout?_eq]
  simp only [Option.orElse_eq_orElse, Option.orElse_eq_or, Option.or_assoc]
  rfl

theorem stage_ends :
    ∀ stage ∈ stages, stage.2.word.head?.any (· ≠ .blank) ∧
      stage.2.word.getLast?.any (· ≠ .blank) := by
  decide +kernel

theorem stage_write_ne_nil {stage : Zoning × Layout} (isStage : stage ∈ stages) {moment : Moment}
    (expressed : stage.2.Expresses moment) : stage.2.write moment ≠ [] := by
  intro none
  have runs := (Layout.runs_write expressed.year stage.2).head?
  have starts := (stage_ends stage isStage).1
  rw [← runs, none] at starts
  cases starts

theorem readTrimmed?_layout {stage : Zoning × Layout} (isStage : stage ∈ stages) {moment : Moment}
    (expressed : stage.2.Expresses moment) : readTrimmed? (stage.2.write moment) = some moment := by
  rw [readTrimmed?_eq (stage_write_ne_nil isStage expressed), internet?_layout isStage expressed,
    Option.none_or, findSome?_stages_write isStage expressed]
  rcases mail?_layout isStage expressed with refused | same
  · rw [refused, Option.none_or]
  · rw [same, Option.some_or]

theorem isBlank_eq_false_of_kind {c? : Option Char} {kind? : Option Kind}
    (same : c?.map kind = kind?) (other : kind?.any (· ≠ .blank)) : c?.all (!isBlank ·) := by
  subst same
  cases c? with
  | none => rfl
  | some c =>
    cases blank : isBlank c with
    | true => simp [Text.kind_of_isBlank blank] at other
    | false => simp [blank]

theorem exists_stage {layout : Layout}
    (isLayout : layout ∈ zonedLayouts ++ localLayouts ++ dateLayouts) :
    ∃ zoning, (zoning, layout) ∈ stages := by
  rcases List.mem_append.1 isLayout with isLayout | isDate
  · rcases List.mem_append.1 isLayout with isZoned | isLocal
    · exact ⟨.zoned, List.mem_append_left _ (List.mem_append_left _ (List.mem_map_of_mem isZoned))⟩
    · exact ⟨.unzoned, List.mem_append_left _ (List.mem_append_right _ (List.mem_map_of_mem isLocal))⟩
  · exact ⟨.dateAlone, List.mem_append_right _ (List.mem_map_of_mem isDate)⟩

/-- No layout is shadowed by an earlier form. A moment that is written in a layout that can express it
is read as just that moment, whatever blanks stand around it. -/
theorem read?_layout {layout : Layout}
    (isLayout : layout ∈ zonedLayouts ++ localLayouts ++ dateLayouts) {moment : Moment}
    (expressed : layout.Expresses moment) {before after : List Char}
    (blanksBefore : ∀ c ∈ before, isBlank c) (blanksAfter : ∀ c ∈ after, isBlank c) :
    read? (String.ofList (before ++ (layout.write moment ++ after))) = some moment := by
  obtain ⟨zoning, isStage⟩ := exists_stage isLayout
  have runs := Layout.runs_write expressed.year layout
  have ends := stage_ends _ isStage
  have filled := stage_write_ne_nil isStage expressed
  have trimmed := Text.stripBy_between blanksBefore blanksAfter filled
    (isBlank_eq_false_of_kind runs.head? ends.1) (isBlank_eq_false_of_kind runs.getLast? ends.2)
  rw [read?, String.toList_ofList, trimmed]
  exact readTrimmed?_layout isStage expressed

/-- A leap second of a year that is written with zeros. -/
def earlyLeapSecond : Moment where
  date := ⟨4, 12, 31, by decide, by decide⟩
  clock := ⟨0, 0, 60, 0, by decide⟩
  offset := -1439
  offsetBounded := by decide
  universal := by decide

theorem read?_earlyLeapSecond :
    weekdayLayout ++ mailLayout ∈ zonedLayouts ++ localLayouts ++ dateLayouts ∧
      (weekdayLayout ++ mailLayout).Expresses earlyLeapSecond ∧
      read? "\n Fri, 31 Dec 0004 00:00:60 -2359\t" = some earlyLeapSecond := by
  have isLayout : weekdayLayout ++ mailLayout ∈ zonedLayouts ++ localLayouts ++ dateLayouts := by
    decide
  have expressed : (weekdayLayout ++ mailLayout).Expresses earlyLeapSecond := by
    constructor <;> decide
  have text : "\n Fri, 31 Dec 0004 00:00:60 -2359\t" =
      String.ofList
        (['\n', ' '] ++ ((weekdayLayout ++ mailLayout).write earlyLeapSecond ++ ['\t'])) := by
    decide
  have before : ['\n', ' '].all isBlank = true := by decide
  have after : ['\t'].all isBlank = true := by decide
  exact ⟨isLayout, expressed,
    text ▸ read?_layout isLayout expressed (List.all_eq_true.1 before) (List.all_eq_true.1 after)⟩

end PageFeed.Moment
