import PageFeed.Proofs.Moment.Layout

/-! Timestamps as their grammar has them: a date of the calendar with a year of four digits, a time of day
with any number of places behind the second, and an offset of hours and minutes. The standard form of a
moment follows this grammar, but for the form of years that four digits do not reach. What follows it is
read as the moment that it spells. -/

namespace PageFeed.Moment

open Text (isDigit isDigit_eq decimal padded number? takeWhile_isDigit_append)

/-! ## The grammar -/

/-- A number in a fixed number of digits. -/
structure Spells (places n : Nat) (text : List Char) : Prop where
  length : text.length = places
  digits : ∀ c ∈ text, c.isDigit
  value : Nat.ofDigitChars 10 text 0 = n

def FullYear (year : Int) (text : List Char) : Prop := ∃ n : Nat, year = n ∧ Spells 4 n text

/-- Years that four digits do not reach, with a sign. -/
inductive SignedYear : Int → List Char → Prop
  | before {year : Int} {places : Nat} {digits : List Char} (early : year < 0) (enough : 4 ≤ places)
      (spelt : Spells places year.natAbs digits) : SignedYear year ('-' :: digits)
  | after {year : Int} {places : Nat} {digits : List Char} (late : 9999 < year) (enough : 4 ≤ places)
      (spelt : Spells places year.natAbs digits) : SignedYear year ('+' :: digits)

inductive FullDate (IsYear : Int → List Char → Prop) (date : Date) : List Char → Prop
  | intro {year month day : List Char} (isYear : IsYear date.year year)
      (isMonth : Spells 2 date.month month) (isDay : Spells 2 date.day day) :
      FullDate IsYear date (year ++ '-' :: (month ++ '-' :: day))

/-- What stands behind a second. Nanoseconds are what the first nine places count. -/
inductive Fraction : Nat → List Char → Prop
  | whole : Fraction 0 []
  | places {digits : List Char} (more : digits ≠ []) (isDigits : ∀ c ∈ digits, c.isDigit) :
      Fraction (Nat.ofDigitChars 10 (digits.take 9) 0 * 10 ^ (9 - digits.length)) ('.' :: digits)

inductive PartialTime (clock : Clock) : List Char → Prop
  | intro {hour minute second fraction : List Char} (isHour : Spells 2 clock.hour hour)
      (isMinute : Spells 2 clock.minute minute) (isSecond : Spells 2 clock.second second)
      (isFraction : Fraction clock.nanosecond fraction) :
      PartialTime clock (hour ++ ':' :: (minute ++ ':' :: (second ++ fraction)))

/-- An offset in minutes. Its hours and minutes are those of a time of day. -/
inductive NumOffset : Int → List Char → Prop
  | east {hours minutes : Nat} {hour minute : List Char} (inDay : hours < 24 ∧ minutes < 60)
      (isHour : Spells 2 hours hour) (isMinute : Spells 2 minutes minute) :
      NumOffset (60 * hours + minutes) ('+' :: (hour ++ ':' :: minute))
  | west {hours minutes : Nat} {hour minute : List Char} (inDay : hours < 24 ∧ minutes < 60)
      (isHour : Spells 2 hours hour) (isMinute : Spells 2 minutes minute) :
      NumOffset (-(60 * hours + minutes)) ('-' :: (hour ++ ':' :: minute))

/-- A date and time with its offset, for a form of years. -/
inductive DateTime (IsYear : Int → List Char → Prop) (moment : Moment) : List Char → Prop
  | intro {date time offset : List Char} (isDate : FullDate IsYear moment.date date)
      (isTime : PartialTime moment.clock time) (isOffset : NumOffset moment.offset offset) :
      DateTime IsYear moment (date ++ 'T' :: (time ++ offset))

/-! ## Reading -/

theorem Spells.isDigits {places n : Nat} {text : List Char} (spelt : Spells places n text) :
    ∀ c ∈ text, isDigit c := by
  intro c member
  rw [isDigit_eq]
  exact spelt.digits c member

theorem Spells.read {places n : Nat} {text : List Char} (spelt : Spells places n text)
    (rest : List Char) : number? places (some places) (text ++ rest) = some (n, rest) := by
  have value : decimal text = n := (Text.decimalFrom_eq spelt.isDigits 0).trans spelt.value
  have read := Text.number?_append spelt.isDigits (Nat.le_refl _) rest
  rwa [spelt.length, value] at read

theorem NumOffset.beginsSign {offset : Int} {text : List Char} (isOffset : NumOffset offset text) :
    BeginsSign text := by
  cases isOffset with
  | east => exact ⟨'+', _, rfl, .inr rfl⟩
  | west => exact ⟨'-', _, rfl, .inl rfl⟩

theorem NumOffset.read {offset : Int} {text : List Char} (isOffset : NumOffset offset text) :
    zone? text = some (offset, []) := by
  have numeric (sign : Char) (rest : List Char) (isSign : sign = '-' ∨ sign = '+') :
      zone? (sign :: rest) = offset? true (char? ':') (sign :: rest) := by
    rcases isSign with rfl | rfl <;> rfl
  cases isOffset with
  | @east hours minutes hour minute inDay isHour isMinute =>
    have lastRead := isMinute.read []
    rw [List.append_nil] at lastRead
    rw [numeric '+' _ (.inr rfl)]
    simp only [offset?, sign?, isHour.read, char?, if_true, lastRead, if_pos inDay.2, Int.one_mul]
  | @west hours minutes hour minute inDay isHour isMinute =>
    have lastRead := isMinute.read []
    rw [List.append_nil] at lastRead
    rw [numeric '-' _ (.inl rfl)]
    simp only [offset?, sign?, isHour.read, char?, if_true, lastRead, if_pos inDay.2,
      Int.neg_mul, Int.one_mul]

/-- A fraction of any length is read up to the offset. -/
theorem Fraction.read {nanosecond : Nat} {text rest : List Char} (isFraction : Fraction nanosecond text)
    (signed : BeginsSign rest) : optionalFraction? (text ++ rest) = some (nanosecond, rest) := by
  cases isFraction with
  | whole =>
    obtain ⟨sign, more, rfl, rfl | rfl⟩ := signed
    · rfl
    · rfl
  | @places digits more digitsOnly =>
    have isDigits : ∀ c ∈ digits, isDigit c := by
      intro c member
      rw [isDigit_eq]
      exact digitsOnly c member
    have first : ∀ c ∈ digits.take 9, isDigit c := fun c member =>
      isDigits c (List.mem_of_mem_take member)
    have size : 9 - (digits.take 9).length = 9 - digits.length := by
      rw [List.length_take]
      omega
    have run := takeWhile_isDigit_append isDigits signed.endsDigits
    have filled : digits.isEmpty = false := List.isEmpty_eq_false_iff.2 more
    rw [List.cons_append, optionalFraction?, fraction?, run, filled, if_neg Bool.false_ne_true,
      List.drop_left]
    dsimp only
    rw [size, decimal, Text.decimalFrom_eq first]
    rfl

/-- Parts that name the date, time of day and offset of a moment name the moment. -/
theorem Parts.moment?_eq (moment : Moment) (nanosecond : Option Nat)
    (fraction : nanosecond.getD 0 = moment.clock.nanosecond) :
    Parts.moment? {
      year := some moment.date.year, month := some moment.date.month, day := some moment.date.day
      hour := some moment.clock.hour, minute := some moment.clock.minute
      second := some moment.clock.second, nanosecond, offset := some moment.offset } =
        some moment := by
  have date := moment.date.of?_self
  have clock := moment.clock.of?_self
  simp only [Parts.moment?, Parts.date?, Parts.clock?, date, fraction, Option.getD_some, clock,
    moment.of?_self]

theorem DateTime.readParts {moment : Moment} {text : List Char}
    (spelt : DateTime FullYear moment text) : internetParts? text = some {
      year := some moment.date.year, month := some moment.date.month, day := some moment.date.day
      hour := some moment.clock.hour, minute := some moment.clock.minute
      second := some moment.clock.second, nanosecond := some moment.clock.nanosecond
      offset := some moment.offset } := by
  obtain ⟨⟨⟨number, same, isYear⟩, isMonth, isDay⟩, ⟨isHour, isMinute, isSecond, isFraction⟩,
    isOffset⟩ := spelt
  simp only [List.append_assoc, List.cons_append]
  -- the steps of the reader in turn, each part with the mark behind it
  refine Option.bind_eq_some_iff.2 ⟨_, isYear.read _, Option.bind_eq_some_iff.2 ⟨_, rfl, ?_⟩⟩
  refine Option.bind_eq_some_iff.2 ⟨_, isMonth.read _, Option.bind_eq_some_iff.2 ⟨_, rfl, ?_⟩⟩
  refine Option.bind_eq_some_iff.2 ⟨_, isDay.read _, Option.bind_eq_some_iff.2 ⟨_, rfl, ?_⟩⟩
  refine Option.bind_eq_some_iff.2 ⟨_, isHour.read _, Option.bind_eq_some_iff.2 ⟨_, rfl, ?_⟩⟩
  refine Option.bind_eq_some_iff.2 ⟨_, isMinute.read _, Option.bind_eq_some_iff.2 ⟨_, rfl, ?_⟩⟩
  refine Option.bind_eq_some_iff.2 ⟨_, isSecond.read _, ?_⟩
  refine Option.bind_eq_some_iff.2 ⟨_, isFraction.read isOffset.beginsSign, ?_⟩
  refine Option.bind_eq_some_iff.2 ⟨_, isOffset.read, ?_⟩
  simp only [same, List.isEmpty_nil, if_true]

/-- Every timestamp is read, as the moment that it spells. -/
theorem DateTime.read {moment : Moment} {text : List Char} (spelt : DateTime FullYear moment text) :
    internet? text = some moment := by
  rw [internet?, spelt.readParts, Option.bind_some]
  exact Parts.moment?_eq moment _ rfl

/-! ## Writing -/

theorem spells_of_isDigit {text : List Char} (isDigits : ∀ c ∈ text, isDigit c) :
    Spells text.length (decimal text) text where
  length := rfl
  digits c member := by
    rw [← isDigit_eq]
    exact isDigits c member
  value := (Text.decimalFrom_eq isDigits 0).symm

theorem spells_padded {places n : Nat} (positive : 0 < places) (fits : n < 10 ^ places) :
    Spells places n (padded places n) := by
  have spelt : Spells _ _ (padded places n) := spells_of_isDigit Text.isDigit_of_mem_padded
  rwa [Text.length_padded positive fits, Text.decimal_padded] at spelt

theorem fullYear_writeYear {year : Int} (within : 0 ≤ year ∧ year ≤ 9999) :
    FullYear year (writeYear year) := by
  rw [writeYear, if_pos within]
  exact ⟨year.toNat, by omega, spells_padded (by decide) (by omega)⟩

theorem signedYear_writeYear {year : Int} (beyond : ¬(0 ≤ year ∧ year ≤ 9999)) :
    SignedYear year (writeYear year) := by
  have spelt : Spells _ _ (padded 4 year.natAbs) := spells_of_isDigit Text.isDigit_of_mem_padded
  have enough : 4 ≤ (padded 4 year.natAbs).length := by
    simp only [padded, List.length_append, List.length_replicate]
    omega
  rw [Text.decimal_padded] at spelt
  rw [writeYear, if_neg beyond]
  by_cases early : year < 0
  · rw [if_pos early]
    exact .before early enough spelt
  · rw [if_neg early]
    exact .after (by omega) enough spelt

theorem fraction_padded {places n : Nat} (positive : 0 < places) (most : places ≤ 9)
    (fits : n < 10 ^ places) : Fraction (n * 10 ^ (9 - places)) ('.' :: padded places n) := by
  have spelt := spells_padded positive fits
  have found := Fraction.places (Text.padded_ne_nil places n) spelt.digits
  rwa [List.take_of_length_le (spelt.length.trans_le most), spelt.value, spelt.length] at found

/-- Only zeros are left out behind a fraction. -/
theorem fraction_writeFraction {nanosecond : Nat} (bounded : nanosecond < 1000000000) :
    Fraction nanosecond (writeFraction nanosecond) := by
  have written {places n : Nat} (positive : 0 < places) (most : places ≤ 9) (fits : n < 10 ^ places)
      (restores : n * 10 ^ (9 - places) = nanosecond) :
      Fraction nanosecond ('.' :: padded places n) := restores ▸ fraction_padded positive most fits
  unfold writeFraction
  split
  · next none => exact none ▸ .whole
  · split
    · exact written (by decide) (by decide) (by omega) (by omega)
    · split
      · exact written (by decide) (by decide) (by omega) (by omega)
      · exact written (by decide) (by decide) (by omega) (by omega)

theorem numOffset_writeOffset {offset : Int} (bounded : -1440 < offset ∧ offset < 1440) :
    NumOffset offset (writeOffset offset) := by
  have inDay : offset.natAbs / 60 < 24 ∧ offset.natAbs % 60 < 60 := by omega
  have hours : Spells 2 _ (padded 2 (offset.natAbs / 60)) := spells_padded (by decide) (by omega)
  have minutes : Spells 2 _ (padded 2 (offset.natAbs % 60)) := spells_padded (by decide) (by omega)
  unfold writeOffset
  by_cases negative : offset < 0
  · have same : -(60 * ((offset.natAbs / 60 : Nat) : Int) + (offset.natAbs % 60 : Nat)) = offset := by
      omega
    have west := NumOffset.west inDay hours minutes
    rw [if_pos negative]
    rwa [same] at west
  · have same : 60 * ((offset.natAbs / 60 : Nat) : Int) + (offset.natAbs % 60 : Nat) = offset := by
      omega
    have east := NumOffset.east inDay hours minutes
    rw [if_neg negative]
    rwa [same] at east

/-- The standard form follows the grammar, for whatever form of years its year has. -/
theorem dateTime_write {IsYear : Int → List Char → Prop} (moment : Moment)
    (isYear : IsYear moment.date.year (writeYear moment.date.year)) :
    DateTime IsYear moment moment.write := by
  have monthFits := moment.date.month_le
  have dayFits := moment.date.day_le
  have clockFits := moment.clock.inDay
  have two {n : Nat} (fits : n < 100) : Spells 2 n (padded 2 n) := spells_padded (by decide) fits
  have date : FullDate IsYear moment.date _ := ⟨isYear,
    two (show moment.date.month < 100 by omega), two (show moment.date.day < 100 by omega)⟩
  have time : PartialTime moment.clock _ := ⟨two (show moment.clock.hour < 100 by omega),
    two (show moment.clock.minute < 100 by omega), two (show moment.clock.second < 100 by omega),
    fraction_writeFraction clockFits.2.2.2⟩
  have whole := DateTime.intro date time (numOffset_writeOffset moment.offsetBounded)
  simpa only [write, List.append_assoc, List.cons_append] using whole

end PageFeed.Moment
