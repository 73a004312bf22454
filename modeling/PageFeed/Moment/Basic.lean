import PageFeed.Moment.Calendar
import PageFeed.Text.Digits

/-! Moments: a local date and time of day with the offset from universal time, and their standard
written form. -/

namespace PageFeed

/-- A local date and time, with its offset from universal time in whole minutes. The offset is less
than a day, and the same moment in universal time is still within the calendar. -/
structure Moment where
  date : Moment.Date
  clock : Moment.Clock
  offset : Int
  offsetBounded : -1440 < offset ∧ offset < 1440
  universal :
    (date.isFirst = true → offset ≤ 60 * clock.hour + clock.minute) ∧
    (date.isLast = true → 60 * clock.hour + clock.minute - offset < 1440)
deriving DecidableEq

namespace Moment

open Text (padded)

def of? (date : Date) (clock : Clock) (offset : Int) : Option Moment :=
  if offsetBounded : -1440 < offset ∧ offset < 1440 then
    if universal : (date.isFirst = true → offset ≤ 60 * clock.hour + clock.minute) ∧
        (date.isLast = true → 60 * clock.hour + clock.minute - offset < 1440) then
      some ⟨date, clock, offset, offsetBounded, universal⟩
    else none
  else none

theorem universal_zero (date : Date) (clock : Clock) :
    (date.isFirst = true → (0 : Int) ≤ 60 * clock.hour + clock.minute) ∧
    (date.isLast = true → (60 * clock.hour + clock.minute - 0 : Int) < 1440) := by
  have inDay := clock.inDay
  constructor <;> intro _ <;> omega

def utc (date : Date) (clock : Clock) : Moment :=
  ⟨date, clock, 0, by decide, universal_zero date clock⟩

theorem of?_self (moment : Moment) :
    of? moment.date moment.clock moment.offset = some moment := by
  rw [of?, dif_pos moment.offsetBounded, dif_pos moment.universal]

/-- A year of four digits is written as it is; any other has a sign and at least four digits. -/
def writeYear (year : Int) : List Char :=
  if 0 ≤ year ∧ year ≤ 9999 then padded 4 year.toNat
  else (if year < 0 then '-' else '+') :: padded 4 year.natAbs

/-- A fraction of a second has three, six or nine places, the fewest that lose nothing. -/
def writeFraction (nanosecond : Nat) : List Char :=
  if nanosecond = 0 then []
  else if nanosecond % 1000000 = 0 then '.' :: padded 3 (nanosecond / 1000000)
  else if nanosecond % 1000 = 0 then '.' :: padded 6 (nanosecond / 1000)
  else '.' :: padded 9 nanosecond

def writeOffset (offset : Int) : List Char :=
  (if offset < 0 then '-' else '+') ::
    (padded 2 (offset.natAbs / 60) ++ ':' :: padded 2 (offset.natAbs % 60))

def write (moment : Moment) : List Char :=
  writeYear moment.date.year ++
    '-' :: padded 2 moment.date.month ++ '-' :: padded 2 moment.date.day ++
    'T' :: padded 2 moment.clock.hour ++ ':' :: padded 2 moment.clock.minute ++
    ':' :: padded 2 moment.clock.second ++ writeFraction moment.clock.nanosecond ++
    writeOffset moment.offset

def iso (moment : Moment) : String := String.ofList moment.write

end Moment

end PageFeed
