import PageFeed.Moment.Mail
import PageFeed.Proofs.Moment.Names

/-! The shapes of dates. Whatever is read as a timestamp, as a mail date or in a layout consists of blocks
of digits, letters, blanks and signs in the order of its form. -/

namespace PageFeed.Moment

open Text (isBlank isDigit number? kind Kind Block Shape Fits FitsUpTo fitsUpTo_number? fitsUpTo_block
  fitsUpTo_char fitsUpTo_one_iff fitsUpTo_perhaps fitsUpTo_nothing)

/-! ## Parts -/

theorem fitsUpTo_skipBlanks (text : List Char) :
    FitsUpTo [.perhaps .blank] text (skipBlanks text) := by
  have cut := fitsUpTo_perhaps (skipBlanks text) fun c isMember =>
    Text.kind_of_isBlank (List.mem_takeWhile_imp (p := isBlank) (l := text) isMember)
  rwa [skipBlanks, List.takeWhile_append_dropWhile] at cut

theorem fitsUpTo_char? {c : Char} {text rest : List Char} (read : char? c text = some rest) :
    FitsUpTo [.one (kind c)] text rest := by
  unfold char? at read
  split at read
  · next d after =>
    split at read
    · next same =>
      obtain rfl := Option.some.inj read
      exact fitsUpTo_char (beq_iff_eq.2 (congrArg kind same)) after
    · cases read
  · cases read

theorem fitsUpTo_sign? {wide : Bool} {sign : Int} {text rest : List Char}
    (read : sign? wide text = some (sign, rest)) : FitsUpTo [.one .sign] text rest := by
  unfold sign? at read
  split at read
  · obtain ⟨-, rfl⟩ := Prod.mk.inj (Option.some.inj read)
    exact fitsUpTo_char (by decide) _
  · obtain ⟨-, rfl⟩ := Prod.mk.inj (Option.some.inj read)
    exact fitsUpTo_char (by decide) _
  · split at read
    · obtain ⟨-, rfl⟩ := Prod.mk.inj (Option.some.inj read)
      exact fitsUpTo_char (by decide) _
    · cases read
  · cases read

/-- An offset is a sign and two numbers with what may stand between them. -/
theorem fitsUpTo_offset? {wide : Bool} {between : List Char → Option (List Char)} {shape : Shape}
    (separates : ∀ {text rest}, between text = some rest → FitsUpTo shape text rest)
    {offset : Int} {text rest : List Char} (read : offset? wide between text = some (offset, rest)) :
    FitsUpTo ([.one .sign, .one .digit] ++ shape ++ [.one .digit]) text rest := by
  unfold offset? at read
  split at read
  · cases read
  · next signRead =>
    split at read
    · cases read
    · next hoursRead =>
      split at read
      · cases read
      · next betweenRead =>
        split at read
        · cases read
        · next minutesRead =>
          split at read
          · obtain ⟨-, rfl⟩ := Prod.mk.inj (Option.some.inj read)
            exact (((fitsUpTo_sign? signRead).trans (fitsUpTo_number? (by decide) hoursRead)).trans
              (separates betweenRead)).trans (fitsUpTo_number? (by decide) minutesRead)
          · cases read

theorem fitsUpTo_year? {year : Int} {text rest : List Char} (read : year? text = some (year, rest)) :
    FitsUpTo [.perhaps .sign, .one .digit] text rest := by
  unfold year? at read
  split at read
  · next after =>
    obtain ⟨⟨n, behind⟩, digits, same⟩ := Option.map_eq_some_iff.1 read
    obtain ⟨-, rfl⟩ := Prod.mk.inj same
    exact FitsUpTo.trans (fitsUpTo_char (by decide) after)
      (fitsUpTo_number? (by decide) digits)
  · next after =>
    obtain ⟨⟨n, behind⟩, digits, same⟩ := Option.map_eq_some_iff.1 read
    obtain ⟨-, rfl⟩ := Prod.mk.inj same
    exact FitsUpTo.trans (fitsUpTo_char (by decide) after)
      (fitsUpTo_number? (by decide) digits)
  · obtain ⟨⟨n, behind⟩, digits, same⟩ := Option.map_eq_some_iff.1 read
    obtain ⟨-, rfl⟩ := Prod.mk.inj same
    exact FitsUpTo.trans (fitsUpTo_nothing rfl text) (fitsUpTo_number? (by decide) digits)

/-! ## Layouts -/

/-- A block of the colons and blanks of an offset. -/
def colonsAndBlanksBlock : Block :=
  { takes := fun kind => kind == .mark ':' || kind == .blank, isOptional := true }

/-- The shape of what an item reads. -/
def Item.shape : Item → Shape
  | .literal c => [.one (kind c)]
  | .blanks => [.perhaps .blank]
  | .year => [.perhaps .blank, .perhaps .sign, .one .digit]
  | .month | .day | .hour | .minute | .second => [.perhaps .blank, .one .digit]
  | .monthName | .monthShort | .weekdayName | .weekdayShort => [.one .letter]
  | .offset => [.perhaps .blank, .one .sign, .one .digit, colonsAndBlanksBlock, .one .digit]

/-- The shape of what a layout reads. -/
def Layout.shape (layout : Layout) : Shape := layout.flatMap Item.shape

theorem fitsUpTo_colonsAndBlanks {text rest : List Char}
    (read : colonsAndBlanks text = some rest) : FitsUpTo [colonsAndBlanksBlock] text rest := by
  obtain rfl := Option.some.inj read
  have cut := @fitsUpTo_block colonsAndBlanksBlock
    (text.takeWhile fun c => c == ':' || isBlank c) (text.dropWhile fun c => c == ':' || isBlank c)
  rw [List.takeWhile_append_dropWhile] at cut
  refine cut (fun c isMember => ?_) fun _ => rfl
  have stands := List.mem_takeWhile_imp isMember
  rcases Bool.or_eq_true_iff.1 stands with colon | blank
  · rw [beq_iff_eq.1 colon]
    decide
  · rw [Text.kind_of_isBlank blank]
    rfl

theorem Item.fitsUpTo_read? {item : Item} {parts next : Parts} {text rest : List Char}
    (read : item.read? parts text = some (next, rest)) : FitsUpTo item.shape text rest := by
  have blanks := fitsUpTo_skipBlanks text
  cases item with
  | literal c =>
    cases text with
    | nil => cases read
    | cons d text =>
      simp only [read?] at read
      split at read
      · next same =>
        obtain ⟨-, rfl⟩ := Prod.mk.inj (Option.some.inj read)
        exact fitsUpTo_char? (if_pos same)
      · cases read
  | blanks =>
    obtain ⟨-, rfl⟩ := Prod.mk.inj (Option.some.inj read)
    exact blanks
  | year =>
    obtain ⟨⟨year, behind⟩, yearRead, same⟩ := Option.map_eq_some_iff.1 read
    obtain ⟨-, rfl⟩ := Prod.mk.inj same
    exact blanks.trans (fitsUpTo_year? yearRead)
  | month | day | hour | minute | second =>
    obtain ⟨⟨n, behind⟩, digits, same⟩ := Option.map_eq_some_iff.1 read
    obtain ⟨-, rfl⟩ := Prod.mk.inj same
    exact blanks.trans (fitsUpTo_number? (by decide) digits)
  | monthName =>
    obtain ⟨⟨place, behind⟩, name, same⟩ := Option.map_eq_some_iff.1 read
    obtain ⟨-, rfl⟩ := Prod.mk.inj same
    exact areDistinct_monthNames.fitsUpTo_longName? name
  | monthShort =>
    obtain ⟨⟨place, behind⟩, name, same⟩ := Option.map_eq_some_iff.1 read
    obtain ⟨-, rfl⟩ := Prod.mk.inj same
    exact areDistinct_monthNames.fitsUpTo_shortName? name
  | weekdayName =>
    obtain ⟨⟨place, behind⟩, name, same⟩ := Option.map_eq_some_iff.1 read
    obtain ⟨-, rfl⟩ := Prod.mk.inj same
    exact areDistinct_weekdayNames.fitsUpTo_longName? name
  | weekdayShort =>
    obtain ⟨⟨place, behind⟩, name, same⟩ := Option.map_eq_some_iff.1 read
    obtain ⟨-, rfl⟩ := Prod.mk.inj same
    exact areDistinct_weekdayNames.fitsUpTo_shortName? name
  | offset =>
    obtain ⟨⟨offset, behind⟩, zone, same⟩ := Option.map_eq_some_iff.1 read
    obtain ⟨-, rfl⟩ := Prod.mk.inj same
    exact blanks.trans (fitsUpTo_offset? fitsUpTo_colonsAndBlanks zone)

theorem Layout.fitsUpTo_readFrom? {layout : Layout} {parts next : Parts} {text rest : List Char}
    (read : readFrom? parts layout text = some (next, rest)) : FitsUpTo layout.shape text rest := by
  induction layout generalizing parts text with
  | nil =>
    obtain ⟨-, rfl⟩ := Prod.mk.inj (Option.some.inj read)
    exact FitsUpTo.refl text
  | cons item layout ih =>
    rw [readFrom?] at read
    split at read
    · cases read
    · next itemRead => exact (Item.fitsUpTo_read? itemRead).trans (ih read)

/-- Whatever is read in a layout is of its shape. -/
theorem Layout.fits_of_read? {layout : Layout} {parts : Parts} {text : List Char}
    (read : layout.read? text = some parts) : Fits layout.shape text := by
  unfold Layout.read? at read
  split at read
  · next found => exact (fitsUpTo_readFrom? found).fits
  · cases read

/-! ## Timestamps -/

/-- A block of what stands between the date and the time of a timestamp. -/
def dateEndBlock : Block := { takes := fun kind => kind == .letter || kind == .blank }

/-- The shape of a timestamp up to its zone. -/
def clockShape : Shape :=
  [.one .digit, .one (kind '-'), .one .digit, .one (kind '-'), .one .digit, dateEndBlock, .one .digit,
    .one (kind ':'), .one .digit, .one (kind ':'), .one .digit, .perhaps (kind '.'), .perhaps .digit]

/-- The shapes of timestamps, by their zones. -/
def internetShapes : List Shape :=
  [clockShape ++ [.one .letter],
    clockShape ++ [.one .sign, .one .digit, .one (kind ':'), .one .digit]]

theorem fitsUpTo_dateEnd? {text rest : List Char} (read : dateEnd? text = some rest) :
    FitsUpTo [dateEndBlock] text rest := by
  unfold dateEnd? at read
  split at read
  · obtain rfl := Option.some.inj read
    exact fitsUpTo_char (by decide) _
  · obtain rfl := Option.some.inj read
    exact fitsUpTo_char (by decide) _
  · obtain rfl := Option.some.inj read
    exact fitsUpTo_char (by decide) _
  · cases read

theorem fitsUpTo_optionalFraction? {nanosecond : Nat} {text rest : List Char}
    (read : optionalFraction? text = some (nanosecond, rest)) :
    FitsUpTo [.perhaps (kind '.'), .perhaps .digit] text rest := by
  unfold optionalFraction? at read
  split at read
  · next after =>
    unfold fraction? at read
    dsimp only at read
    split at read
    · cases read
    · obtain ⟨-, rfl⟩ := Prod.mk.inj (Option.some.inj read)
      have cut : after.takeWhile isDigit ++ after.drop (after.takeWhile isDigit).length = after :=
        Text.spanDigits_append none after
      have digits := fitsUpTo_perhaps (after.drop (after.takeWhile isDigit).length)
        fun c isMember =>
          Text.kind_of_isDigit (List.mem_takeWhile_imp (p := isDigit) (l := after) isMember)
      rw [cut] at digits
      exact FitsUpTo.trans (fitsUpTo_char (by decide) after) digits
  · obtain ⟨-, rfl⟩ := Prod.mk.inj (Option.some.inj read)
    exact FitsUpTo.trans (fitsUpTo_nothing rfl _) (fitsUpTo_nothing rfl _)

theorem exists_of_zone? {offset : Int} {text rest : List Char}
    (read : zone? text = some (offset, rest)) :
    FitsUpTo [.one .letter] text rest ∨
      FitsUpTo [.one .sign, .one .digit, .one (kind ':'), .one .digit] text rest := by
  unfold zone? at read
  split at read
  · obtain ⟨-, rfl⟩ := Prod.mk.inj (Option.some.inj read)
    exact .inl (fitsUpTo_char (by decide) _)
  · obtain ⟨-, rfl⟩ := Prod.mk.inj (Option.some.inj read)
    exact .inl (fitsUpTo_char (by decide) _)
  · exact .inr (fitsUpTo_offset? fitsUpTo_char? read)

/-- Whatever is read as a timestamp is of one of their shapes. -/
theorem exists_fits_of_internet? {text : List Char} {moment : Moment}
    (read : internet? text = some moment) : ∃ shape ∈ internetShapes, Fits shape text := by
  obtain ⟨parts, found, -⟩ := Option.bind_eq_some_iff.mp read
  obtain ⟨_, year, found⟩ := Option.bind_eq_some_iff.mp found
  obtain ⟨_, yearEnd, found⟩ := Option.bind_eq_some_iff.mp found
  obtain ⟨_, month, found⟩ := Option.bind_eq_some_iff.mp found
  obtain ⟨_, monthEnd, found⟩ := Option.bind_eq_some_iff.mp found
  obtain ⟨_, day, found⟩ := Option.bind_eq_some_iff.mp found
  obtain ⟨_, dayEnd, found⟩ := Option.bind_eq_some_iff.mp found
  obtain ⟨_, hour, found⟩ := Option.bind_eq_some_iff.mp found
  obtain ⟨_, hourEnd, found⟩ := Option.bind_eq_some_iff.mp found
  obtain ⟨_, minute, found⟩ := Option.bind_eq_some_iff.mp found
  obtain ⟨_, minuteEnd, found⟩ := Option.bind_eq_some_iff.mp found
  obtain ⟨_, second, found⟩ := Option.bind_eq_some_iff.mp found
  obtain ⟨_, fraction, found⟩ := Option.bind_eq_some_iff.mp found
  obtain ⟨⟨offset, rest⟩, zone, found⟩ := Option.bind_eq_some_iff.mp found
  dsimp only at found
  split at found
  · next ends =>
    obtain rfl := List.isEmpty_iff.1 ends
    have clock : FitsUpTo clockShape text _ :=
      (fitsUpTo_number? (by decide) year).trans <| (fitsUpTo_char? yearEnd).trans <|
      (fitsUpTo_number? (by decide) month).trans <| (fitsUpTo_char? monthEnd).trans <|
      (fitsUpTo_number? (by decide) day).trans <| (fitsUpTo_dateEnd? dayEnd).trans <|
      (fitsUpTo_number? (by decide) hour).trans <| (fitsUpTo_char? hourEnd).trans <|
      (fitsUpTo_number? (by decide) minute).trans <| (fitsUpTo_char? minuteEnd).trans <|
      (fitsUpTo_number? (by decide) second).trans (fitsUpTo_optionalFraction? fraction)
    rcases exists_of_zone? zone with letter | signed
    · exact ⟨_, List.mem_cons_self, (clock.trans letter).fits⟩
    · exact ⟨_, List.mem_cons_of_mem _ List.mem_cons_self, (clock.trans signed).fits⟩
  · cases found

/-! ## Mail dates -/

/-- A block of anything. -/
def anythingBlock : Block := { takes := fun _ => true, isOptional := true }

/-- The shape of a mail date up to its hour, with anything behind it. -/
def mailShape : Shape :=
  [.perhaps .blank, .perhaps .letter, .perhaps (kind ','), .perhaps .blank, .one .digit, .one .blank,
    .one .letter, .one .blank, .one .digit, .one .blank, .one .digit, anythingBlock]

theorem fitsUpTo_someBlanks? {text rest : List Char} (read : someBlanks? text = some rest) :
    FitsUpTo [.one .blank] text rest := by
  unfold someBlanks? at read
  split at read
  · next c after =>
    split at read
    · next blank =>
      obtain rfl := Option.some.inj read
      refine fitsUpTo_one_iff.2 ⟨c :: after.takeWhile isBlank, ?_, List.cons_ne_nil _ _, ?_⟩
      · rw [skipBlanks, List.cons_append, List.takeWhile_append_dropWhile]
      · exact List.forall_mem_cons.2 ⟨Text.kind_of_isBlank blank, fun d isMember =>
          Text.kind_of_isBlank (List.mem_takeWhile_imp isMember)⟩
    · cases read
  · cases read

theorem fitsUpTo_optionalWeekday? {weekday : Option Nat} {text rest : List Char}
    (read : optionalWeekday? text = some (weekday, rest)) :
    FitsUpTo [.perhaps .letter, .perhaps (kind ',')] text rest := by
  unfold optionalWeekday? at read
  split at read
  · next place behind name =>
    obtain ⟨after, comma, same⟩ := Option.map_eq_some_iff.1 read
    obtain ⟨-, rfl⟩ := Prod.mk.inj same
    have letters := areDistinct_weekdayNames.fitsUpTo_shortName? name
    exact letters.perhaps.trans (fitsUpTo_char? comma).perhaps
  · obtain ⟨-, rfl⟩ := Prod.mk.inj (Option.some.inj read)
    exact FitsUpTo.trans (fitsUpTo_nothing rfl text) (fitsUpTo_nothing rfl text)

/-- Whatever is read as a mail date is of its shape. -/
theorem fits_of_mail? {text : List Char} {moment : Moment} (read : mail? text = some moment) :
    Fits mailShape text := by
  obtain ⟨parts, found, -⟩ := Option.bind_eq_some_iff.mp read
  obtain ⟨_, weekday, found⟩ := Option.bind_eq_some_iff.mp found
  obtain ⟨_, day, found⟩ := Option.bind_eq_some_iff.mp found
  obtain ⟨_, dayEnd, found⟩ := Option.bind_eq_some_iff.mp found
  obtain ⟨_, month, found⟩ := Option.bind_eq_some_iff.mp found
  obtain ⟨_, monthEnd, found⟩ := Option.bind_eq_some_iff.mp found
  obtain ⟨_, year, found⟩ := Option.bind_eq_some_iff.mp found
  obtain ⟨_, yearEnd, found⟩ := Option.bind_eq_some_iff.mp found
  obtain ⟨_, hour, found⟩ := Option.bind_eq_some_iff.mp found
  have anything (rest : List Char) : FitsUpTo [anythingBlock] rest [] := by
    have all := @fitsUpTo_block anythingBlock rest [] (fun _ _ => rfl) fun _ => rfl
    rwa [List.append_nil] at all
  have whole : FitsUpTo mailShape text [] :=
    (fitsUpTo_skipBlanks text).trans <| (fitsUpTo_optionalWeekday? weekday).trans <|
    (fitsUpTo_skipBlanks _).trans <| (fitsUpTo_number? (by decide) day).trans <|
    (fitsUpTo_someBlanks? dayEnd).trans <|
    (areDistinct_monthNames.fitsUpTo_shortName? month).trans <|
    (fitsUpTo_someBlanks? monthEnd).trans <| (fitsUpTo_number? (by decide) year).trans <|
    (fitsUpTo_someBlanks? yearEnd).trans <| (fitsUpTo_number? (by decide) hour).trans (anything _)
  exact whole.fits

end PageFeed.Moment
