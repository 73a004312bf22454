import PageFeed.Moment.Reader
import PageFeed.Proofs.Text.Digits

/-! Parts of dates read back from their written form. Years, numbers of two places and offsets are each
read as what they were written from, whatever follows them, save that no digit may follow a year. -/

namespace PageFeed.Moment

open Text (padded isBlank isDigit number? EndsDigits endsDigits_cons number?_padded number?_eq_none
  number?_padded_of_endsDigits padded_ne_nil isDigit_of_mem_padded isBlank_of_isDigit)

/-! ## Blanks -/

/-- A text that does not begin with a blank. -/
def EndsBlanks (text : List Char) : Prop := text.head?.all (!isBlank ·)

theorem endsBlanks_cons {c : Char} (other : isBlank c = false) (rest : List Char) :
    EndsBlanks (c :: rest) := by
  simp [EndsBlanks, other]

theorem skipBlanks_eq_self {text : List Char} (ends : EndsBlanks text) : skipBlanks text = text := by
  cases text with
  | nil => rfl
  | cons c rest =>
    apply List.dropWhile_cons_of_neg
    simpa [EndsBlanks] using ends

theorem exists_padded (width n : Nat) : ∃ c more, padded width n = c :: more ∧ isDigit c := by
  obtain ⟨c, more, digits⟩ := List.exists_cons_of_ne_nil (padded_ne_nil width n)
  exact ⟨c, more, digits, isDigit_of_mem_padded c (digits ▸ List.mem_cons_self)⟩

theorem endsBlanks_padded (width n : Nat) (rest : List Char) :
    EndsBlanks (padded width n ++ rest) := by
  obtain ⟨c, more, digits, digit⟩ := exists_padded width n
  rw [digits]
  exact endsBlanks_cons (isBlank_of_isDigit digit) _

/-! ## Parts -/

theorem Date.month_le (date : Date) : date.month ≤ 12 := by
  have dayExists := date.dayExists
  unfold daysInMonth at dayExists
  split at dayExists <;> omega

theorem Date.day_le (date : Date) : date.day ≤ 31 := by
  have dayExists := date.dayExists
  unfold daysInMonth at dayExists
  split at dayExists <;> grind

/-- A number of two places is read back. -/
theorem number?_skipBlanks_padded {n : Nat} (fits : n < 100) (rest : List Char) :
    number? 1 (some 2) (skipBlanks (padded 2 n ++ rest)) = some (n, rest) := by
  rw [skipBlanks_eq_self (endsBlanks_padded 2 n rest)]
  exact number?_padded (by decide) (by decide) fits rest

/-- A year is read back where no digit follows it. -/
theorem year?_writeYear (year : Int) {rest : List Char} (ends : EndsDigits rest) :
    year? (writeYear year ++ rest) = some (year, rest) := by
  unfold writeYear
  split
  · next within =>
    have read : number? 1 (some 4) (padded 4 year.toNat ++ rest) = some (year.toNat, rest) :=
      number?_padded (by decide) (by decide) (by omega) rest
    have same : (year.toNat : Int) = year := by omega
    obtain ⟨c, more, digits, digit⟩ := exists_padded 4 year.toNat
    rw [digits, List.cons_append] at read ⊢
    unfold year?
    split
    · next start => exact absurd ((List.cons.inj start).1 ▸ digit) (by decide)
    · next start => exact absurd ((List.cons.inj start).1 ▸ digit) (by decide)
    · rw [read, Option.map_some, same]
  · next beyond =>
    have read := number?_padded_of_endsDigits 4 year.natAbs ends
    rw [List.cons_append]
    by_cases negative : year < 0
    · have same : -(year.natAbs : Int) = year := by omega
      rw [if_pos negative, year?, read, Option.map_some, same]
    · have same : (year.natAbs : Int) = year := by omega
      rw [if_neg negative, year?, read, Option.map_some, same]

theorem endsBlanks_writeYear (year : Int) (rest : List Char) :
    EndsBlanks (writeYear year ++ rest) := by
  unfold writeYear
  split
  · exact endsBlanks_padded _ _ rest
  · split
    · exact endsBlanks_cons (by decide) _
    · exact endsBlanks_cons (by decide) _

/-- An offset is read back when what stands between its hours and minutes may stand there. -/
theorem offset?_padded {offset : Int} (bounded : -1440 < offset ∧ offset < 1440) (wide : Bool)
    {between : List Char → Option (List Char)} (mark : List Char) {rest : List Char}
    (separated : between (mark ++ (padded 2 (offset.natAbs % 60) ++ rest)) =
      some (padded 2 (offset.natAbs % 60) ++ rest)) :
    offset? wide between ((if offset < 0 then '-' else '+') :: (padded 2 (offset.natAbs / 60) ++
      (mark ++ (padded 2 (offset.natAbs % 60) ++ rest)))) = some (offset, rest) := by
  have hours : number? 2 (some 2) (padded 2 (offset.natAbs / 60) ++
      (mark ++ (padded 2 (offset.natAbs % 60) ++ rest))) =
        some (offset.natAbs / 60, mark ++ (padded 2 (offset.natAbs % 60) ++ rest)) :=
    number?_padded (by decide) (by decide) (by omega) _
  have minutes : number? 2 (some 2) (padded 2 (offset.natAbs % 60) ++ rest) =
      some (offset.natAbs % 60, rest) :=
    number?_padded (by decide) (by decide) (by omega) rest
  have below : offset.natAbs % 60 < 60 := Nat.mod_lt _ (by decide)
  by_cases negative : offset < 0
  · simp only [if_pos negative, offset?, sign?, hours, separated, minutes, if_pos below,
      Option.some.injEq, Prod.mk.injEq, and_true]
    omega
  · simp only [if_neg negative, offset?, sign?, hours, separated, minutes, if_pos below,
      Option.some.injEq, Prod.mk.injEq, and_true]
    omega

/-- Texts that begin with a sign. -/
def BeginsSign (text : List Char) : Prop := ∃ sign more, text = sign :: more ∧ (sign = '-' ∨ sign = '+')

theorem BeginsSign.endsDigits {text : List Char} (signed : BeginsSign text) : EndsDigits text := by
  obtain ⟨sign, more, rfl, rfl | rfl⟩ := signed
  · exact endsDigits_cons (by decide) more
  · exact endsDigits_cons (by decide) more

theorem beginsSign_writeOffset (offset : Int) : BeginsSign (writeOffset offset) := by
  unfold writeOffset
  split
  · exact ⟨'-', _, rfl, .inl rfl⟩
  · exact ⟨'+', _, rfl, .inr rfl⟩

theorem endsBlanks_writeOffset (offset : Int) (rest : List Char) :
    EndsBlanks (writeOffset offset ++ rest) := by
  obtain ⟨sign, more, written, rfl | rfl⟩ := beginsSign_writeOffset offset
  · exact written ▸ endsBlanks_cons (by decide) _
  · exact written ▸ endsBlanks_cons (by decide) _

/-- Digits end the colons and blanks of an offset. -/
theorem colonsAndBlanks_padded (width n : Nat) (rest : List Char) :
    colonsAndBlanks (':' :: (padded width n ++ rest)) = some (padded width n ++ rest) := by
  obtain ⟨c, more, digits, digit⟩ := exists_padded width n
  have stops : (c == ':' || isBlank c) = false := by
    rw [isBlank_of_isDigit digit, Bool.or_false, beq_eq_false_iff_ne]
    rintro rfl
    exact absurd digit (by decide)
  rw [digits, colonsAndBlanks, List.dropWhile_cons_of_pos (by decide), List.cons_append,
    List.dropWhile_cons_of_neg (by simp [stops])]

/-! ## Layouts -/

namespace Layout

variable (parts : Parts) (layout : Layout)

/-- The blanks of a layout may be missing. -/
theorem readFrom?_blanks {text : List Char} (ends : EndsBlanks text) :
    readFrom? parts (.blanks :: layout) text = readFrom? parts layout text := by
  simp only [readFrom?, Item.read?, skipBlanks_eq_self ends]

/-- A date is read back from numbers with a separator. -/
theorem readFrom?_numericDate {separator : Char} (other : isDigit separator = false) (date : Date)
    (rest : List Char) :
    readFrom? parts (numericDate separator ++ layout)
        (writeYear date.year ++ separator :: (padded 2 date.month ++ separator ::
          (padded 2 date.day ++ rest))) =
      readFrom? { parts with
        year := some date.year, month := some date.month, day := some date.day } layout rest := by
  have monthFits := date.month_le
  have dayFits := date.day_le
  have day := number?_skipBlanks_padded (show date.day < 100 by omega) rest
  have month := number?_skipBlanks_padded (show date.month < 100 by omega)
    (separator :: (padded 2 date.day ++ rest))
  have ends := endsDigits_cons other (padded 2 date.month ++ separator :: (padded 2 date.day ++ rest))
  have year := year?_writeYear date.year ends
  rw [← skipBlanks_eq_self (endsBlanks_writeYear _ _)] at year
  simp only [numericDate, List.cons_append, List.nil_append, readFrom?, Item.read?, year, month, day,
    Option.map_some, if_true]

/-- A time of day with seconds is read back. -/
theorem readFrom?_hourMinuteSecond (clock : Clock) (rest : List Char) :
    readFrom? parts (hourMinuteSecond ++ layout)
        (padded 2 clock.hour ++ ':' :: (padded 2 clock.minute ++ ':' ::
          (padded 2 clock.second ++ rest))) =
      readFrom? { parts with
        hour := some clock.hour, minute := some clock.minute, second := some clock.second }
        layout rest := by
  have fits := clock.inDay
  have second := number?_skipBlanks_padded (show clock.second < 100 by omega) rest
  have minute := number?_skipBlanks_padded (show clock.minute < 100 by omega)
    (':' :: (padded 2 clock.second ++ rest))
  have hour := number?_skipBlanks_padded (show clock.hour < 100 by omega)
    (':' :: (padded 2 clock.minute ++ ':' :: (padded 2 clock.second ++ rest)))
  simp only [hourMinuteSecond, List.cons_append, List.nil_append, readFrom?, Item.read?, hour, minute,
    second, Option.map_some, if_true]

/-- An offset with a colon is read back. -/
theorem readFrom?_offset {offset : Int} (bounded : -1440 < offset ∧ offset < 1440)
    (rest : List Char) :
    readFrom? parts (.offset :: layout) (writeOffset offset ++ rest) =
      readFrom? { parts with offset := some offset } layout rest := by
  have read := offset?_padded bounded true [':'] (colonsAndBlanks_padded 2 (offset.natAbs % 60) rest)
  have written : writeOffset offset ++ rest = (if offset < 0 then '-' else '+') ::
      (padded 2 (offset.natAbs / 60) ++ ([':'] ++ (padded 2 (offset.natAbs % 60) ++ rest))) := by
    simp only [writeOffset, List.append_assoc, List.cons_append, List.nil_append]
  rw [← written, ← skipBlanks_eq_self (endsBlanks_writeOffset _ _)] at read
  simp only [readFrom?, Item.read?, read, Option.map_some]

end Layout

end PageFeed.Moment
