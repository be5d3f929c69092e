/-!
The calendar: leap years, the lengths of months, and weeks.

Days are numbered from the first day of the year 1, which is a Monday. Weeks start on a Monday too. The first week of
a year is the one that has the year's first Thursday, so it may start in the year before.
-/

namespace TokenSheet.Calendar

/-- A day of the calendar. -/
structure Day where
  year : Nat
  month : Nat
  day : Nat
deriving DecidableEq, Repr

/-- Whether a year has a day more than others. -/
def isLeap (year : Nat) : Bool :=
  year % 4 == 0 && (year % 100 != 0 || year % 400 == 0)

/-- The count of days in a month. -/
def daysIn (year month : Nat) : Nat :=
  if month = 2 then (if isLeap year then 29 else 28)
  else if [4, 6, 9, 11].contains month then 30
  else 31

/-- Whether the calendar has a day. -/
def Day.isValid (d : Day) : Bool :=
  1 ≤ d.year && d.year ≤ 9999 && 1 ≤ d.month && d.month ≤ 12 && 1 ≤ d.day && d.day ≤ daysIn d.year d.month

/-- The number of the first day of a year. -/
def yearStart (year : Nat) : Nat :=
  365 * (year - 1) + (year - 1) / 4 - (year - 1) / 100 + (year - 1) / 400

/-- The number of the first day of the first week of a year. -/
def weekOne (year : Nat) : Nat :=
  let start := yearStart year
  if start % 7 ≤ 3 then start - start % 7 else start + 7 - start % 7

/-- The month and the day that lie a count of days after the start of a month. -/
def dayAfter (year : Nat) : List Nat → Nat → Option Day
  | [], _ => none
  | month :: months, count =>
    if count < daysIn year month then some ⟨year, month, count + 1⟩
    else dayAfter year months (count - daysIn year month)

/-- The day of a number that is at most a year off from a year. -/
def dayNear (year number : Nat) : Option Day :=
  let near := if number < yearStart year then year - 1
    else if number < yearStart (year + 1) then year
    else year + 1
  dayAfter near ((List.range 12).map (· + 1)) (number - yearStart near)

/-- The day of a week of a year, the week and the day counted from one. -/
def dayOfWeek? (year week day : Nat) : Option Day :=
  let number := weekOne year + 7 * (week - 1) + (day - 1)
  if 1 ≤ week ∧ 1 ≤ day ∧ day ≤ 7 ∧ number < weekOne (year + 1) then dayNear year number else none

end TokenSheet.Calendar
