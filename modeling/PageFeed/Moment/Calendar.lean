/-! The proleptic Gregorian calendar: which dates exist, their running number and their weekday.
Dates are kept within a range of years that is symmetric up to one year around the epoch. -/

namespace PageFeed.Moment

def firstYear : Int := -262143

def lastYear : Int := 262142

def isLeap (year : Int) : Bool :=
  year % 4 == 0 && (year % 100 != 0 || year % 400 == 0)

/-- The number of days of a month, zero when there is no such month. -/
def daysInMonth (year : Int) (month : Nat) : Nat :=
  match month with
  | 1 => 31 | 2 => if isLeap year then 29 else 28 | 3 => 31 | 4 => 30 | 5 => 31 | 6 => 30
  | 7 => 31 | 8 => 31 | 9 => 30 | 10 => 31 | 11 => 30 | 12 => 31
  | _ => 0

structure Date where
  year : Int
  month : Nat
  day : Nat
  inRange : firstYear ≤ year ∧ year ≤ lastYear
  dayExists : 1 ≤ day ∧ day ≤ daysInMonth year month
deriving DecidableEq

namespace Date

def of? (year : Int) (month day : Nat) : Option Date :=
  if inRange : firstYear ≤ year ∧ year ≤ lastYear then
    if dayExists : 1 ≤ day ∧ day ≤ daysInMonth year month then
      some ⟨year, month, day, inRange, dayExists⟩
    else none
  else none

def daysBefore (year : Int) : Nat → Nat
  | 0 => 0
  | month + 1 => daysBefore year month + daysInMonth year month

/-- The running number of a day; day 1 is the first of January of the year 1. -/
def dayNumber (date : Date) : Int :=
  let past := date.year - 1
  365 * past + past / 4 - past / 100 + past / 400 + daysBefore date.year date.month + date.day

def weekday (date : Date) : Nat := ((date.dayNumber - 1) % 7).toNat

def isFirst (date : Date) : Bool := date.year == firstYear && date.month == 1 && date.day == 1

def isLast (date : Date) : Bool := date.year == lastYear && date.month == 12 && date.day == 31

theorem of?_self (date : Date) : of? date.year date.month date.day = some date := by
  simp [of?, date.inRange, date.dayExists]

end Date

/-- A time of day to the nanosecond. Second 60 is a leap second. -/
structure Clock where
  hour : Nat
  minute : Nat
  second : Nat
  nanosecond : Nat
  inDay : hour < 24 ∧ minute < 60 ∧ second ≤ 60 ∧ nanosecond < 1000000000
deriving DecidableEq

namespace Clock

def of? (hour minute second nanosecond : Nat) : Option Clock :=
  if inDay : hour < 24 ∧ minute < 60 ∧ second ≤ 60 ∧ nanosecond < 1000000000 then
    some ⟨hour, minute, second, nanosecond, inDay⟩
  else none

def midnight : Clock := ⟨0, 0, 0, 0, by decide⟩

theorem of?_self (clock : Clock) :
    of? clock.hour clock.minute clock.second clock.nanosecond = some clock := by
  simp [of?, clock.inDay]

end Clock

end PageFeed.Moment
