import PageFeed.Extraction.Format
import PageFeed.Proofs.Moment.Timestamp
import PageFeed.Proofs.Text.Blank

/-! The standard written form of a moment, read again. A year of four digits is read as an internet
timestamp, with its fraction. Any other year has a sign, which no timestamp, no mail date and no layout
with a blank behind the date gets past; the layout with a `T` reads it, but no fraction. A fraction is
only ever read from a timestamp, so what has been read once is read again as the same moment. -/

namespace PageFeed.Moment

open Text (padded isBlank isDigit EndsDigits endsDigits_cons number?_eq_none isDigit_of_mem_padded)

/-! ## Years of four digits -/

theorem internet?_write {moment : Moment}
    (within : 0 ≤ moment.date.year ∧ moment.date.year ≤ 9999) :
    internet? moment.write = some moment :=
  (dateTime_write moment (fullYear_writeYear within)).read

/-! ## Other years -/

theorem internet?_eq_none {text : List Char} (signed : BeginsSign text) : internet? text = none := by
  obtain ⟨sign, more, rfl, rfl | rfl⟩ := signed
  · rfl
  · rfl

theorem mail?_eq_none {text : List Char} (signed : BeginsSign text) : mail? text = none := by
  obtain ⟨sign, more, rfl, rfl | rfl⟩ := signed
  · rfl
  · rfl

theorem beginsSign_write {moment : Moment}
    (beyond : ¬(0 ≤ moment.date.year ∧ moment.date.year ≤ 9999)) : BeginsSign moment.write := by
  simp only [write, List.append_assoc, writeYear, if_neg beyond, List.cons_append]
  split
  · exact ⟨'-', _, rfl, .inl rfl⟩
  · exact ⟨'+', _, rfl, .inr rfl⟩

theorem Layout.readFrom?_hour_eq_none (parts : Parts) (layout : Layout) {text : List Char}
    (blanks : EndsBlanks text) (digits : EndsDigits text) :
    Layout.readFrom? parts (.hour :: layout) text = none := by
  simp only [Layout.readFrom?, Item.read?, skipBlanks_eq_self blanks,
    number?_eq_none (by decide : 0 < 1) _ digits, Option.map_none]

/-- The date of a standard form is read by every layout that begins with one, up to the mark of the
time of day. -/
theorem readFrom?_write (moment : Moment) (layout : Layout) :
    Layout.readFrom? {} (numericDate '-' ++ layout) moment.write =
      Layout.readFrom? {
          year := some moment.date.year, month := some moment.date.month
          day := some moment.date.day } layout
        ('T' :: (padded 2 moment.clock.hour ++ ':' :: (padded 2 moment.clock.minute ++ ':' ::
          (padded 2 moment.clock.second ++
            (writeFraction moment.clock.nanosecond ++ writeOffset moment.offset))))) := by
  simp only [write, List.append_assoc, List.cons_append]
  exact Layout.readFrom?_numericDate {} layout (by decide) moment.date _

/-- No layout with blanks behind the date reads a standard form. -/
theorem read?_blanks_write (moment : Moment) (layout : Layout) :
    Layout.read? (numericDate '-' ++ .blanks :: .hour :: layout) moment.write = none := by
  rw [Layout.read?, readFrom?_write, Layout.readFrom?_blanks _ _ (endsBlanks_cons (by decide) _),
    Layout.readFrom?_hour_eq_none _ _ (endsBlanks_cons (by decide) _) (endsDigits_cons (by decide) _)]

/-- The layout with a `T` in front of the time of day reads a standard form without fraction. -/
theorem read?_timeMark_write {moment : Moment} (whole : moment.clock.nanosecond = 0) :
    Layout.read? (numericDate '-' ++ .literal 'T' :: (hourMinuteSecond ++ [.offset])) moment.write =
      some {
        year := some moment.date.year, month := some moment.date.month, day := some moment.date.day
        hour := some moment.clock.hour, minute := some moment.clock.minute
        second := some moment.clock.second, offset := some moment.offset } := by
  have offset := Layout.readFrom?_offset {
    year := some moment.date.year, month := some moment.date.month, day := some moment.date.day
    hour := some moment.clock.hour, minute := some moment.clock.minute
    second := some moment.clock.second } [] moment.offsetBounded []
  rw [List.append_nil] at offset
  rw [Layout.read?, readFrom?_write, whole, writeFraction, if_pos rfl, List.nil_append]
  simp only [Layout.readFrom?, Item.read?, if_true]
  rw [Layout.readFrom?_hourMinuteSecond, offset]
  rfl

/-- Of the zoned layouts the third one is the first to read a standard form without fraction, as what
it was written from. -/
theorem firstLayout?_zonedLayouts_write {moment : Moment} (whole : moment.clock.nanosecond = 0) :
    firstLayout? Parts.moment? zonedLayouts moment.write = some moment := by
  have layouts : zonedLayouts = (numericDate '-' ++ .blanks :: .hour :: _) ::
      (numericDate '-' ++ .blanks :: .hour :: _) ::
      (numericDate '-' ++ .literal 'T' :: (hourMinuteSecond ++ [.offset])) :: _ := rfl
  rw [firstLayout?, layouts, List.findSome?_cons, read?_blanks_write, Option.bind_none,
    List.findSome?_cons, read?_blanks_write, Option.bind_none, List.findSome?_cons,
    read?_timeMark_write whole, Option.bind_some,
    Parts.moment?_eq moment none whole.symm]

/-! ## What has been read -/

/-- Moments that the standard form of is read back: a fraction needs a year of four digits. -/
def IsPrintable (moment : Moment) : Prop :=
  moment.clock.nanosecond = 0 ∨ (0 ≤ moment.date.year ∧ moment.date.year ≤ 9999)

theorem year_of_date? {parts : Parts} {date : Date} (named : parts.date? = some date) :
    parts.year = some date.year := by
  unfold Parts.date? at named
  split at named
  · next year month day yearNamed _ _ =>
    have made (found : Date) (there : Date.of? year month day = some found) : found.year = year := by
      unfold Date.of? at there
      grind
    grind
  · cases named

theorem nanosecond_of_clock? {parts : Parts} {clock : Clock} (named : parts.clock? = some clock) :
    clock.nanosecond = parts.nanosecond.getD 0 := by
  unfold Parts.clock? at named
  split at named
  · unfold Clock.of? at named
    grind
  · cases named

theorem fields_of_of? {date : Date} {clock : Clock} {offset : Int} {moment : Moment}
    (made : of? date clock offset = some moment) :
    moment.date = date ∧ moment.clock = clock := by
  unfold of? at made
  split at made
  · split at made
    · rw [← Option.some.inj made]
      exact ⟨rfl, rfl⟩
    · cases made
  · cases made

theorem parts_of_moment? {parts : Parts} {moment : Moment} (named : parts.moment? = some moment) :
    parts.date? = some moment.date ∧ parts.clock? = some moment.clock := by
  unfold Parts.moment? at named
  split at named
  · next date clock offset dateNamed clockNamed _ =>
    obtain ⟨sameDate, sameClock⟩ := fields_of_of? named
    rw [dateNamed, clockNamed, sameDate, sameClock]
    exact ⟨rfl, rfl⟩
  · cases named

theorem clock_of_utc? {parts : Parts} {moment : Moment} (named : parts.utc? = some moment) :
    parts.clock? = some moment.clock := by
  unfold Parts.utc? at named
  split at named
  · next date clock _ clockNamed =>
    rw [← Option.some.inj named]
    exact clockNamed
  · cases named

theorem clock_of_midnight? {parts : Parts} {moment : Moment}
    (named : parts.midnight? = some moment) : moment.clock = Clock.midnight := by
  obtain ⟨date, _, rfl⟩ := Option.map_eq_some_iff.mp named
  simp only [Moment.utc]

/-- The year of a timestamp has four digits. -/
theorem year_of_internet? {text : List Char} {moment : Moment}
    (read : internet? text = some moment) : 0 ≤ moment.date.year ∧ moment.date.year ≤ 9999 := by
  obtain ⟨parts, found, named⟩ := Option.bind_eq_some_iff.mp read
  have year := year_of_date? (parts_of_moment? named).1
  obtain ⟨⟨number, behind⟩, digits, found⟩ := Option.bind_eq_some_iff.mp found
  have bound := Text.lt_of_number? digits
  have made : parts.year = some (number : Int) := by
    iterate 12 obtain ⟨_, _, found⟩ := Option.bind_eq_some_iff.mp found
    dsimp only at found
    split at found
    · rw [← Option.some.inj found]
    · cases found
  rw [made, Option.some.injEq] at year
  omega

/-- No fraction is read from a mail date. -/
theorem nanosecond_of_mail? {text : List Char} {moment : Moment} (read : mail? text = some moment) :
    moment.clock.nanosecond = 0 := by
  obtain ⟨parts, found, named⟩ := Option.bind_eq_some_iff.mp read
  rw [nanosecond_of_clock? (parts_of_moment? named).2]
  iterate 13 obtain ⟨_, _, found⟩ := Option.bind_eq_some_iff.mp found
  dsimp only at found
  split at found
  · rw [← Option.some.inj found]
    rfl
  · cases found

/-- No item of a layout reads a fraction. -/
theorem Item.nanosecond_read? {item : Item} {parts next : Parts} {text rest : List Char}
    (read : item.read? parts text = some (next, rest)) : next.nanosecond = parts.nanosecond := by
  cases item with
  | literal c =>
    simp only [Item.read?] at read
    grind
  | blanks =>
    cases read
    rfl
  | _ =>
    obtain ⟨_, _, made⟩ := Option.map_eq_some_iff.mp read
    cases made
    rfl

theorem Layout.nanosecond_readFrom? {layout : Layout} {parts next : Parts} {text rest : List Char}
    (read : Layout.readFrom? parts layout text = some (next, rest)) :
    next.nanosecond = parts.nanosecond := by
  induction layout generalizing parts text with
  | nil =>
    cases read
    rfl
  | cons item layout ih =>
    rw [Layout.readFrom?] at read
    split at read
    · cases read
    · next step after found =>
      rw [ih read, Item.nanosecond_read? found]

theorem Layout.nanosecond_read? {layout : Layout} {parts : Parts} {text : List Char}
    (read : layout.read? text = some parts) : parts.nanosecond = none := by
  unfold Layout.read? at read
  split at read
  · next found =>
    rw [← Option.some.inj read]
    exact Layout.nanosecond_readFrom? found
  · cases read

theorem exists_layout_of_firstLayout? {name? : Parts → Option Moment} {layouts : List Layout}
    {text : List Char} {moment : Moment} (read : firstLayout? name? layouts text = some moment) :
    ∃ parts, parts.nanosecond = none ∧ name? parts = some moment := by
  obtain ⟨layout, _, found⟩ := List.exists_of_findSome?_eq_some read
  obtain ⟨parts, followed, named⟩ := Option.bind_eq_some_iff.mp found
  exact ⟨parts, Layout.nanosecond_read? followed, named⟩

/-- Whatever form a moment is read from, its standard form can be read back. -/
theorem isPrintable_of_readTrimmed? {text : List Char} {moment : Moment}
    (read : readTrimmed? text = some moment) : moment.IsPrintable := by
  unfold readTrimmed? at read
  split at read
  · cases read
  · simp only [Option.orElse_eq_orElse, Option.orElse_eq_or, Option.or_eq_some_iff] at read
    obtain timestamp | ⟨_, mail | ⟨_, zoned | ⟨_, localTime | ⟨_, dateAlone⟩⟩⟩⟩ := read
    · exact .inr (year_of_internet? timestamp)
    · exact .inl (nanosecond_of_mail? mail)
    · obtain ⟨parts, whole, named⟩ := exists_layout_of_firstLayout? zoned
      have clock := nanosecond_of_clock? (parts_of_moment? named).2
      exact .inl (by rw [clock, whole, Option.getD_none])
    · obtain ⟨parts, whole, named⟩ := exists_layout_of_firstLayout? localTime
      have clock := nanosecond_of_clock? (clock_of_utc? named)
      exact .inl (by rw [clock, whole, Option.getD_none])
    · obtain ⟨parts, _, named⟩ := exists_layout_of_firstLayout? dateAlone
      exact .inl (by rw [clock_of_midnight? named]; rfl)

/-! ## Reading again -/

theorem isDigit_of_getLast?_writeOffset (before : List Char) (offset : Int) :
    ∀ c ∈ (before ++ writeOffset offset).getLast?, isDigit c := by
  intro c last
  have more := Text.padded_ne_nil 2 (offset.natAbs % 60)
  have lastDigit := List.getLast?_eq_some_getLast more
  simp only [writeOffset, List.getLast?_append, List.getLast?_cons, lastDigit, Option.getD_some,
    Option.some_or, Option.mem_def, Option.some.injEq] at last
  exact last ▸ isDigit_of_mem_padded _ (List.getLast_mem more)

/-- A standard form begins with a digit or a sign and ends with a digit. -/
theorem stripBy_write (moment : Moment) : Text.stripBy isBlank moment.write = moment.write := by
  apply Text.stripBy_eq_self
  · have begins := endsBlanks_writeYear moment.date.year
    simp only [write, List.append_assoc]
    exact begins _
  · have ends := isDigit_of_getLast?_writeOffset
    simp only [write, Option.all_eq_true, Bool.not_eq_true']
    exact fun c last => Text.isBlank_of_isDigit (ends _ _ c last)

theorem readTrimmed?_write {moment : Moment} (printable : moment.IsPrintable) :
    readTrimmed? moment.write = some moment := by
  have filled : moment.write.isEmpty = false := by
    simp [write]
  rw [readTrimmed?, filled, if_neg Bool.false_ne_true]
  by_cases within : 0 ≤ moment.date.year ∧ moment.date.year ≤ 9999
  · rw [internet?_write within]
    rfl
  · -- outside of four digits only a whole second comes back, through a layout
    have whole := printable.resolve_right within
    have signed := beginsSign_write within
    rw [internet?_eq_none signed, mail?_eq_none signed, firstLayout?_zonedLayouts_write whole]
    rfl

theorem read?_iso {moment : Moment} (printable : moment.IsPrintable) :
    read? moment.iso = some moment := by
  rw [read?, iso, String.toList_ofList, stripBy_write, readTrimmed?_write printable]

/-- A moment that has been read is read again from its standard form, as the same local date and time
with the same offset, so that turning a text into a date twice changes nothing. -/
theorem read?_iso_of_read? :
    (∀ (text : String) (moment : Moment), read? text = some moment →
      read? moment.iso = some moment) ∧
    ∀ text : String,
      ValueType.coerce read? (ValueType.coerce read? text .dateTime) .dateTime =
        ValueType.coerce read? text .dateTime := by
  have again (text : String) (moment : Moment) (read : read? text = some moment) :
      read? moment.iso = some moment :=
    read?_iso (isPrintable_of_readTrimmed? read)
  refine ⟨again, fun text => ?_⟩
  cases found : read? text with
  | none =>
    have empty : read? "" = none := rfl
    simp only [ValueType.coerce, found, empty]
  | some moment => simp only [ValueType.coerce, found, again text moment found]

/-- A leap second in a year of five digits. -/
def lateLeapSecond : Moment where
  date := ⟨12016, 12, 31, by decide, by decide⟩
  clock := ⟨23, 59, 60, 0, by decide⟩
  offset := -90
  offsetBounded := by decide
  universal := by decide

theorem read?_lateLeapSecond :
    read? "Sat, 31 Dec 12016 23:59:60 -0130 (leap)" = some lateLeapSecond ∧
      lateLeapSecond.iso = "+12016-12-31T23:59:60-01:30" ∧
      read? lateLeapSecond.iso = some lateLeapSecond := by
  have read : read? "Sat, 31 Dec 12016 23:59:60 -0130 (leap)" = some lateLeapSecond := by
    decide +kernel
  exact ⟨read, by decide, read?_iso_of_read?.1 _ _ read⟩

end PageFeed.Moment
