namespace Syslog

/-!
Days of the proleptic Gregorian calendar, from the first of January 1 to the end of 9999.

A date is numbered by its *ordinal*, which is one for the first of these days.  Weeks follow
ISO 8601: they begin on Monday, and the first week of a year is the one with its first
Thursday.
-/

def isLeapYear (year : Nat) : Bool :=
  year % 4 == 0 && (year % 100 != 0 || year % 400 == 0)

def daysInMonth (year month : Nat) : Nat :=
  if month = 2 then if isLeapYear year then 29 else 28
  else if month = 4 ∨ month = 6 ∨ month = 9 ∨ month = 11 then 30
  else 31

/-- The days of the years before the given one. -/
def daysBeforeYear (year : Nat) : Nat :=
  let past := year - 1
  past * 365 + past / 4 - past / 100 + past / 400

/-- The days of a year that lie before the given month. -/
def daysBeforeMonth (year : Nat) : (month : Nat) → Nat
  | 0 => 0
  | 1 => 0
  | month + 2 => daysBeforeMonth year (month + 1) + daysInMonth year (month + 1)

structure Date where
  year : Nat
  month : Nat
  day : Nat
  year_pos : 1 ≤ year
  year_le : year ≤ 9999
  month_pos : 1 ≤ month
  month_le : month ≤ 12
  day_pos : 1 ≤ day
  day_le : day ≤ daysInMonth year month
deriving DecidableEq

namespace Date

def ofFields? (year month day : Nat) : Option Date :=
  if h : ((1 ≤ year ∧ year ≤ 9999) ∧ (1 ≤ month ∧ month ≤ 12)) ∧
      (1 ≤ day ∧ day ≤ daysInMonth year month) then
    some ⟨year, month, day, h.1.1.1, h.1.1.2, h.1.2.1, h.1.2.2, h.2.1, h.2.2⟩
  else none

def ordinal (date : Date) : Nat :=
  daysBeforeYear date.year + daysBeforeMonth date.year date.month + date.day

/-- The year of a day counted from zero, and the day counted from zero within that year. -/
def splitDays (days : Nat) : Nat × Nat :=
  let era := days / 146097
  let inEra := days % 146097
  let century := min 3 (inEra / 36524)
  let inCentury := inEra - century * 36524
  let cycle := inCentury / 1461
  let inCycle := inCentury % 1461
  let yearOfCycle := min 3 (inCycle / 365)
  (era * 400 + century * 100 + cycle * 4 + yearOfCycle + 1, inCycle - yearOfCycle * 365)

/-- Finds the month of a day counted from zero, looking through `months` months. -/
def splitYear (year : Nat) : (months month : Nat) → (days : Nat) → Nat × Nat
  | 0, month, days => (month, days + 1)
  | months + 1, month, days =>
    if days < daysInMonth year month then (month, days + 1)
    else splitYear year months (month + 1) (days - daysInMonth year month)

/-- The date of an ordinal, up to the last day of 9999. -/
def ofOrdinal? (ordinal : Nat) : Option Date :=
  if ordinal = 0 then none
  else
    let (year, inYear) := splitDays (ordinal - 1)
    let (month, day) := splitYear year 11 1 inYear
    ofFields? year month day

/-- The weekday of an ordinal, where Monday is zero. -/
def weekday (ordinal : Nat) : Nat := (ordinal + 6) % 7

/-- The ordinal of the Monday of the first week, plus seven to stay above zero. -/
def firstMonday (year : Nat) : Nat :=
  let first := daysBeforeYear year + 1
  let monday := first + 7 - weekday first
  if weekday first > 3 then monday + 7 else monday

/-- Whether the year has a week 53: it starts on a Thursday, or on a Wednesday if it is leap. -/
def isLongYear (year : Nat) : Bool :=
  let start := weekday (daysBeforeYear year + 1)
  start == 3 || (start == 2 && isLeapYear year)

/-- The date of a weekday, one for Monday, in a week of a year. -/
def ofWeek? (year week day : Nat) : Option Date :=
  if (1 ≤ year ∧ year ≤ 9999) ∧ (1 ≤ week ∧ (week ≤ 52 ∨ week = 53 ∧ isLongYear year = true)) ∧
      (1 ≤ day ∧ day ≤ 7) then
    ofOrdinal? (firstMonday year + (week - 1) * 7 + (day - 1) - 7)
  else none

end Date

end Syslog
