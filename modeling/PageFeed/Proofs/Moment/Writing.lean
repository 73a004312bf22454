import Mathlib.Data.List.Chain
import PageFeed.Proofs.Moment.Names
import PageFeed.Proofs.Moment.Standard

/-! Moments written in layouts. Every item of a layout has one written form, so a layout says how the
moments that it can express are written. A layout reads back what is written in it, and so does one
that has the full name of a month or weekday where the written one has the short form of it. -/

namespace PageFeed.Moment

open Text (padded isBlank isDigit number? number?_padded kind Kind Runs)

/-! ## Items -/

/-- An offset without anything between hours and minutes. -/
def writeZone (offset : Int) : List Char :=
  (if offset < 0 then '-' else '+') ::
    (padded 2 (offset.natAbs / 60) ++ padded 2 (offset.natAbs % 60))

/-- How an item of a layout is written. -/
def Item.write (moment : Moment) : Item → List Char
  | .literal c => [c]
  | .blanks => [' ']
  | .year => writeYear moment.date.year
  | .month => padded 2 moment.date.month
  | .day => padded 2 moment.date.day
  | .hour => padded 2 moment.clock.hour
  | .minute => padded 2 moment.clock.minute
  | .second => padded 2 moment.clock.second
  | .monthName =>
    (nameAt monthNames (moment.date.month - 1)).1 ++ (nameAt monthNames (moment.date.month - 1)).2
  | .monthShort => (nameAt monthNames (moment.date.month - 1)).1
  | .weekdayName =>
    (nameAt weekdayNames moment.date.weekday).1 ++ (nameAt weekdayNames moment.date.weekday).2
  | .weekdayShort => (nameAt weekdayNames moment.date.weekday).1
  | .offset => writeZone moment.offset

/-- What is known of a moment from an item. -/
def Item.note (moment : Moment) (parts : Parts) : Item → Parts
  | .literal _ | .blanks => parts
  | .year => { parts with year := some moment.date.year }
  | .month | .monthName | .monthShort => { parts with month := some moment.date.month }
  | .day => { parts with day := some moment.date.day }
  | .hour => { parts with hour := some moment.clock.hour }
  | .minute => { parts with minute := some moment.clock.minute }
  | .second => { parts with second := some moment.clock.second }
  | .weekdayName | .weekdayShort => { parts with weekday := some moment.date.weekday }
  | .offset => { parts with offset := some moment.offset }

/-- The kinds of characters that an item is written with. -/
def Item.word : Item → List Kind
  | .literal c => [kind c]
  | .blanks => [.blank]
  | .monthName | .monthShort | .weekdayName | .weekdayShort => [.letter]
  | .offset => [.sign, .digit]
  | _ => [.digit]

/-- Where an item is written, another one that can be read there. -/
def Item.reads (reader item : Item) : Bool :=
  reader == item || (reader == .monthName && item == .monthShort) ||
    (reader == .weekdayName && item == .weekdayShort)

theorem Date.one_le_month (date : Date) : 1 ≤ date.month := by
  by_contra none
  have dayExists := date.dayExists
  obtain zero : date.month = 0 := by omega
  rw [zero, daysInMonth] at dayExists
  · omega
  all_goals exact fun impossible => nomatch impossible

theorem Date.pred_month_lt (date : Date) : date.month - 1 < monthNames.length := by
  have last := date.month_le
  change date.month - 1 < 12
  omega

theorem Date.weekday_lt (date : Date) : date.weekday < weekdayNames.length := by
  change date.weekday < 7
  rw [Date.weekday]
  omega

/-- Digits of a fixed number of places are one run. -/
theorem runs_padded (width n : Nat) : Runs [.digit] (padded width n) :=
  Text.runs_single (Text.padded_ne_nil width n) fun c isMember =>
    Text.kind_of_isDigit (Text.isDigit_of_mem_padded c isMember)

theorem Item.runs_write {moment : Moment}
    (within : 0 ≤ moment.date.year ∧ moment.date.year ≤ 9999) (item : Item) :
    Runs item.word (item.write moment) := by
  have months := moment.date.pred_month_lt
  have weekdays := moment.date.weekday_lt
  cases item with
  | literal c =>
    exact Text.runs_single (List.cons_ne_nil c _) fun d isMember =>
      congrArg kind (List.mem_singleton.1 isMember)
  | blanks =>
    exact Text.runs_single (List.cons_ne_nil _ _) fun d isMember =>
      Text.kind_of_isBlank (List.mem_singleton.1 isMember ▸ Text.isBlank_space)
  | year =>
    rw [write, writeYear, if_pos within]
    exact runs_padded _ _
  | month | day | hour | minute | second => exact runs_padded _ _
  | monthName => exact (areDistinct_monthNames.runs_letters months).2
  | monthShort => exact (areDistinct_monthNames.runs_letters months).1
  | weekdayName => exact (areDistinct_weekdayNames.runs_letters weekdays).2
  | weekdayShort => exact (areDistinct_weekdayNames.runs_letters weekdays).1
  | offset =>
    have sign : kind (if moment.offset < 0 then '-' else '+') = .sign := by split <;> decide
    have digits : Runs [.digit] (padded 2 (moment.offset.natAbs / 60) ++
        padded 2 (moment.offset.natAbs % 60)) :=
      Text.runs_single (List.append_ne_nil_of_left_ne_nil (Text.padded_ne_nil _ _) _)
        fun c isMember => (List.mem_append.1 isMember).elim
          (fun isMember => Text.kind_of_isDigit (Text.isDigit_of_mem_padded c isMember))
          (fun isMember => Text.kind_of_isDigit (Text.isDigit_of_mem_padded c isMember))
    exact ⟨[_], _, rfl, List.cons_ne_nil _ _, fun c isMember => List.mem_singleton.1 isMember ▸ sign,
      digits⟩

/-! ## Reading back -/

theorem endsBlanks_of_kind {text : List Char} (ends : text.head?.map kind ≠ some .blank) :
    EndsBlanks text := by
  cases text with
  | nil => rfl
  | cons c text =>
    cases blank : isBlank c with
    | true => exact absurd (congrArg some (Text.kind_of_isBlank blank)) ends
    | false => exact endsBlanks_cons blank text

theorem endsDigits_of_kind {text : List Char} (ends : text.head?.map kind ≠ some .digit) :
    Text.EndsDigits text := by
  cases text with
  | nil => rfl
  | cons c text =>
    cases digit : isDigit c with
    | true => exact absurd (congrArg some (Text.kind_of_isDigit digit)) ends
    | false => exact Text.endsDigits_cons digit text

/-- An offset without anything between hours and minutes is read back where nothing has to be. -/
theorem offset?_writeZone {offset : Int} (bounded : -1440 < offset ∧ offset < 1440) (wide : Bool)
    {between : List Char → Option (List Char)} {rest : List Char}
    (separated : between (padded 2 (offset.natAbs % 60) ++ rest) =
      some (padded 2 (offset.natAbs % 60) ++ rest)) :
    offset? wide between (writeZone offset ++ rest) = some (offset, rest) := by
  have read := offset?_padded bounded wide [] separated
  simpa only [writeZone, List.append_assoc, List.cons_append, List.nil_append] using read

theorem colonsAndBlanks_digits (width n : Nat) (rest : List Char) :
    colonsAndBlanks (padded width n ++ rest) = some (padded width n ++ rest) := by
  have behind := colonsAndBlanks_padded width n rest
  rwa [colonsAndBlanks, List.dropWhile_cons_of_pos (by decide)] at behind

theorem year?_skipBlanks_writeYear (year : Int) {rest : List Char} (ends : Text.EndsDigits rest) :
    year? (skipBlanks (writeYear year ++ rest)) = some (year, rest) := by
  rw [skipBlanks_eq_self (endsBlanks_writeYear year rest), year?_writeYear year ends]

theorem offset?_skipBlanks_writeZone {offset : Int} (bounded : -1440 < offset ∧ offset < 1440)
    (rest : List Char) :
    offset? true colonsAndBlanks (skipBlanks (writeZone offset ++ rest)) = some (offset, rest) := by
  have starts : EndsBlanks (writeZone offset ++ rest) := by
    unfold writeZone
    split <;> exact endsBlanks_cons (by decide) _
  rw [skipBlanks_eq_self starts]
  exact offset?_writeZone bounded true (colonsAndBlanks_digits 2 (offset.natAbs % 60) rest)

/-- What an item reads back is what is known from the item that is written. -/
theorem Item.read?_write {reader item : Item} (moment : Moment)
    (reads : reader.reads item = true) (parts : Parts) {rest : List Char}
    (ends : rest.head?.map kind ≠ item.word.getLast?) :
    reader.read? parts (item.write moment ++ rest) = some (item.note moment parts, rest) := by
  have date := moment.date.month_le
  have day := moment.date.day_le
  have clock := moment.clock.inDay
  have months := moment.date.pred_month_lt
  have weekdays := moment.date.weekday_lt
  have month : moment.date.month - 1 + 1 = moment.date.month :=
    Nat.sub_add_cancel moment.date.one_le_month
  have two {n : Nat} (fits : n < 100) :
      number? 1 (some 2) (skipBlanks (padded 2 n ++ rest)) = some (n, rest) :=
    number?_skipBlanks_padded fits rest
  simp only [Item.reads, Bool.or_eq_true, beq_iff_eq, Bool.and_eq_true] at reads
  -- an item reads itself, and the item of a full name reads the short form of it
  rcases reads with (rfl | ⟨rfl, rfl⟩) | ⟨rfl, rfl⟩
  · cases reader with
    | literal c => simp [read?, write, note]
    | blanks =>
      have skips : skipBlanks (' ' :: rest) = rest := by
        rw [skipBlanks, List.dropWhile_cons_of_pos Text.isBlank_space]
        exact skipBlanks_eq_self (endsBlanks_of_kind ends)
      exact congrArg (fun left => some (parts, left)) skips
    | year =>
      have year := year?_skipBlanks_writeYear moment.date.year (endsDigits_of_kind ends)
      simp only [read?, write, note, year, Option.map_some]
    | month =>
      simp only [read?, write, note, two (show moment.date.month < 100 by omega), Option.map_some]
    | day =>
      simp only [read?, write, note, two (show moment.date.day < 100 by omega), Option.map_some]
    | hour =>
      simp only [read?, write, note, two (show moment.clock.hour < 100 by omega), Option.map_some]
    | minute =>
      simp only [read?, write, note, two (show moment.clock.minute < 100 by omega), Option.map_some]
    | second =>
      simp only [read?, write, note, two (show moment.clock.second < 100 by omega), Option.map_some]
    | monthName =>
      simp only [read?, write, note, areDistinct_monthNames.longName?_long months, month,
        Option.map_some]
    | monthShort =>
      simp only [read?, write, note, month, Option.map_some,
        shortName?_append areDistinct_monthNames.1 areDistinct_monthNames.2 months]
    | weekdayName =>
      simp only [read?, write, note, areDistinct_weekdayNames.longName?_long weekdays, Option.map_some]
    | weekdayShort =>
      simp only [read?, write, note, Option.map_some,
        shortName?_append areDistinct_weekdayNames.1 areDistinct_weekdayNames.2 weekdays]
    | offset =>
      have zone := offset?_skipBlanks_writeZone moment.offsetBounded rest
      simp only [read?, write, note, zone, Option.map_some]
  · simp only [read?, write, note, areDistinct_monthNames.longName?_short months ends, month,
      Option.map_some]
  · simp only [read?, write, note, areDistinct_weekdayNames.longName?_short weekdays ends,
      Option.map_some]

/-! ## Layouts -/

namespace Layout

/-- How a moment is written in a layout. -/
def write (layout : Layout) (moment : Moment) : List Char := layout.flatMap (Item.write moment)

/-- What is known of a moment that is written in a layout. -/
def note (layout : Layout) (moment : Moment) (parts : Parts) : Parts :=
  layout.foldl (Item.note moment) parts

/-- The kinds of characters that a layout is written with. -/
def word (layout : Layout) : List Kind := layout.flatMap Item.word

/-- Whether a layout reads what is written in another one. -/
def reads : (reader layout : Layout) → Bool
  | [], [] => true
  | first :: reader, item :: layout => first.reads item && reads reader layout
  | _, _ => false

variable {moment : Moment} (within : 0 ≤ moment.date.year ∧ moment.date.year ≤ 9999)

include within

theorem runs_write (layout : Layout) : Runs layout.word (layout.write moment) := by
  induction layout with
  | nil => rfl
  | cons item layout ih => exact (Item.runs_write within item).append ih

/-- Items whose kinds of characters differ from those of their neighbours are read back one by one. -/
theorem readFrom?_write {reader layout : Layout} (reads : reader.reads layout = true)
    (apart : layout.word.IsChain (· ≠ ·)) (parts : Parts) :
    readFrom? parts reader (layout.write moment) = some (layout.note moment parts, []) := by
  induction layout generalizing reader parts with
  | nil =>
    cases reader with
    | nil => rfl
    | cons first reader => cases reads
  | cons item layout ih =>
    cases reader with
    | nil => cases reads
    | cons first reader =>
      obtain ⟨itemReads, layoutReads⟩ := Bool.and_eq_true_iff.1 reads
      obtain ⟨-, layoutApart, between⟩ := List.isChain_append.1 apart
      have ends : (write layout moment).head?.map kind ≠ item.word.getLast? := by
        obtain ⟨last, isLast⟩ : ∃ last, item.word.getLast? = some last := by
          cases item <;> exact ⟨_, rfl⟩
        rw [(runs_write within layout).head?]
        exact fun same => between last isLast last (same.trans isLast) rfl
      change readFrom? parts (first :: reader) (item.write moment ++ write layout moment) = _
      rw [readFrom?, Item.read?_write moment itemReads parts ends]
      exact ih layoutReads layoutApart _

theorem read?_write {reader layout : Layout} (reads : reader.reads layout = true)
    (apart : layout.word.IsChain (· ≠ ·)) :
    reader.read? (layout.write moment) = some (layout.note moment {}) := by
  rw [read?, readFrom?_write within reads apart]

end Layout

/-- A layout can express a moment of the years of four digits when it has an item for all that is not
at its beginning: for seconds, for the time of day and for the offset. No layout has fractions. -/
structure Layout.Expresses (layout : Layout) (moment : Moment) : Prop where
  year : 0 ≤ moment.date.year ∧ moment.date.year ≤ 9999
  fraction : moment.clock.nanosecond = 0
  second : .second ∉ layout → moment.clock.second = 0
  clock : .hour ∉ layout → moment.clock = Clock.midnight
  offset : .offset ∉ layout → moment.offset = 0

/-! ## Moments -/

namespace Parts

variable {parts : Parts} {moment : Moment}

theorem date?_eq {date : Date} (year : parts.year = some date.year)
    (month : parts.month = some date.month) (day : parts.day = some date.day)
    (weekday : parts.weekday.getD date.weekday = date.weekday) : parts.date? = some date := by
  rw [date?, year, month, day]
  simp only [date.of?_self]
  cases named : parts.weekday with
  | none => rfl
  | some named' =>
    rw [named, Option.getD_some] at weekday
    exact if_pos weekday.symm

theorem clock?_eq {clock : Clock} (hour : parts.hour = some clock.hour)
    (minute : parts.minute = some clock.minute) (second : parts.second.getD 0 = clock.second)
    (nanosecond : parts.nanosecond.getD 0 = clock.nanosecond) : parts.clock? = some clock := by
  rw [clock?, hour, minute, second, nanosecond]
  exact clock.of?_self

theorem moment?_eq_some (date : parts.date? = some moment.date)
    (clock : parts.clock? = some moment.clock) (offset : parts.offset = some moment.offset) :
    parts.moment? = some moment := by
  simp only [moment?, date, clock, offset, moment.of?_self]

theorem utc_eq (universal : moment.offset = 0) : Moment.utc moment.date moment.clock = moment := by
  obtain ⟨date, clock, offset, bounded, within⟩ := moment
  obtain rfl : offset = 0 := universal
  rfl

theorem utc?_eq (date : parts.date? = some moment.date) (clock : parts.clock? = some moment.clock)
    (universal : moment.offset = 0) : parts.utc? = some moment := by
  simp only [utc?, date, clock, utc_eq universal]

theorem midnight?_eq (date : parts.date? = some moment.date) (clock : moment.clock = Clock.midnight)
    (universal : moment.offset = 0) : parts.midnight? = some moment := by
  rw [midnight?, date, Option.map_some, ← clock, utc_eq universal]

end Parts

end PageFeed.Moment
