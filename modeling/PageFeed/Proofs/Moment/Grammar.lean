import PageFeed.Proofs.Moment.Standard

/-! The values of dates and the grammar of internet timestamps. Every value that is not empty has the parts
of a timestamp for the moment that was read. The year is taken over from the text, and one of more than
four digits gets a sign, which the grammar does not have. A second of 60 is taken over as well: the grammar
has it for leap seconds, and on which days there was one is no matter of grammar. -/

namespace PageFeed.Moment

/-- Whether a text follows the grammar of internet timestamps, with a date of the calendar. A second of 60
may stand in any minute. -/
def FollowsGrammar (text : List Char) : Prop := ∃ moment, DateTime FullYear moment text

/-- A timestamp is read as the moment that it spells, so the standard form of a moment is no timestamp of
another one. -/
theorem followsGrammar_write_iff (moment : Moment) :
    FollowsGrammar moment.write ↔ 0 ≤ moment.date.year ∧ moment.date.year ≤ 9999 := by
  constructor
  · rintro ⟨other, spelt⟩
    have read := spelt.read
    by_contra beyond
    rw [internet?_eq_none (beginsSign_write beyond)] at read
    cases read
  · intro within
    exact ⟨moment, dateTime_write moment (fullYear_writeYear within)⟩

theorem fullYear_or_signedYear (year : Int) :
    FullYear year (writeYear year) ∨ SignedYear year (writeYear year) := by
  by_cases within : 0 ≤ year ∧ year ≤ 9999
  · exact .inl (fullYear_writeYear within)
  · exact .inr (signedYear_writeYear within)

theorem coerce_of_read? {text : String} {moment : Moment} (read : read? text = some moment) :
    ValueType.coerce read? text .dateTime = moment.iso := by
  simp only [ValueType.coerce, read]

/-- The value of a date is empty, or it has the parts of a timestamp for the moment that was read, and
follows the grammar of timestamps exactly when the year has no more than four digits. Any other year is
written with a sign. -/
theorem dateTime_value (text : String) :
    (read? text = none ∧ ValueType.coerce read? text .dateTime = "") ∨
      ∃ moment value, read? text = some moment ∧
        ValueType.coerce read? text .dateTime = String.ofList value ∧
        DateTime (fun year digits => FullYear year digits ∨ SignedYear year digits) moment value ∧
        (FollowsGrammar value ↔ 0 ≤ moment.date.year ∧ moment.date.year ≤ 9999) := by
  cases read : read? text with
  | none =>
    left
    simp only [ValueType.coerce, read, and_self]
  | some moment =>
    right
    exact ⟨moment, moment.write, rfl, coerce_of_read? read,
      dateTime_write moment (fullYear_or_signedYear _), followsGrammar_write_iff moment⟩

theorem iso_ne_empty (moment : Moment) : moment.iso ≠ "" := by
  rw [iso, Ne, String.ofList_eq_empty_iff]
  simp [write]

def farNewYear : Moment := utc ⟨12345, 1, 1, by decide, by decide⟩ .midnight

/-- A date with a year of five digits is read, and its value is neither empty nor a timestamp. -/
theorem dateTime_value_farNewYear :
    ¬∀ text : String, ValueType.coerce read? text .dateTime = "" ∨
      FollowsGrammar (ValueType.coerce read? text .dateTime).toList := by
  intro all
  have read : read? "+12345-01-01" = some farNewYear := by decide +kernel
  have value := all "+12345-01-01"
  rw [coerce_of_read? read, iso, String.toList_ofList, followsGrammar_write_iff] at value
  rcases value with empty | within
  · exact iso_ne_empty farNewYear empty
  · exact absurd within (by decide)

end PageFeed.Moment
