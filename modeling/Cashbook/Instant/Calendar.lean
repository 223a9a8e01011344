/-
The calendar.

Days are counted from the first of January 1970, before it with negative numbers, in
the calendar of today extended without end in both directions.  Years are thought of
as beginning in March, which puts the day that leap years add at the end; every four
hundred years the calendar repeats.
-/
namespace Cashbook

/-- A day of the calendar. -/
structure Date where
  year : Int
  month : Nat
  day : Nat
deriving DecidableEq

namespace Date

/-- Whether a year has a twenty-ninth of February. -/
def isLeap (year : Int) : Bool :=
  year % 4 == 0 && (year % 100 != 0 || year % 400 == 0)

/-- How many days a month has. -/
def daysInMonth (year : Int) (month : Nat) : Nat :=
  if month = 2 then (if isLeap year then 29 else 28)
  else if month = 4 ∨ month = 6 ∨ month = 9 ∨ month = 11 then 30
  else 31

/-- Whether the calendar has this day. -/
def IsValid (date : Date) : Prop :=
  1 ≤ date.month ∧ date.month ≤ 12 ∧ 1 ≤ date.day ∧ date.day ≤ daysInMonth date.year date.month

instance (date : Date) : Decidable date.IsValid := inferInstanceAs (Decidable (_ ∧ _))

/-- The number of a day, the first of January 1970 being day zero. -/
def toDays (date : Date) : Int :=
  let year := if date.month ≤ 2 then date.year - 1 else date.year
  let century4 := year / 400
  let yearOf4 := year % 400
  let month := (date.month + 9) % 12
  let dayOfYear : Int := (153 * month + 2) / 5 + date.day - 1
  century4 * 146097 + (yearOf4 * 365 + yearOf4 / 4 - yearOf4 / 100 + dayOfYear) - 719468

/-- The day with this number. -/
def ofDays (days : Int) : Date :=
  let shifted := days + 719468
  let century4 := shifted / 146097
  let dayOf4 := shifted % 146097
  let yearOf4 := (dayOf4 - dayOf4 / 1460 + dayOf4 / 36524 - dayOf4 / 146096) / 365
  let dayOfYear := dayOf4 - (365 * yearOf4 + yearOf4 / 4 - yearOf4 / 100)
  let month := (5 * dayOfYear + 2) / 153
  let day := dayOfYear - (153 * month + 2) / 5 + 1
  let calendarMonth := if month < 10 then month + 3 else month - 9
  { year := century4 * 400 + yearOf4 + (if calendarMonth ≤ 2 then 1 else 0)
    month := calendarMonth.toNat
    day := day.toNat }

end Date

end Cashbook
