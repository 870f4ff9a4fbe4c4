/-!
# The calendar

Days of the Gregorian calendar, extended over the years 1 to 9999, and numbered from the first day
of year 1, which is a Monday and has number 0.

* `dayNumber`: the number of a day that is given by year, month and day of the month
* `Civil.ofDayNumber`: the way back
* `ofWeek?`: the number of a day that is given by ISO year, week and weekday
-/

namespace AirQuality.Time

/-- The years of the calendar end with this one. -/
def lastYear : Nat := 9999

/-- Whether a year has 366 days. -/
def isLeap (year : Nat) : Bool :=
  year % 4 == 0 && (year % 100 != 0 || year % 400 == 0)

/-- The length of a month; months are numbered from 1. -/
def daysInMonth (year month : Nat) : Nat :=
  match month with
  | 2 => if isLeap year then 29 else 28
  | 4 | 6 | 9 | 11 => 30
  | _ => 31

/-- How many days of the calendar lie before a year. -/
def daysBeforeYear (year : Nat) : Nat :=
  let past := year - 1
  365 * past + past / 4 - past / 100 + past / 400

/-- How many days of a year lie before a month. -/
def daysBeforeMonth (year : Nat) : Nat → Nat
  | 0 => 0
  | 1 => 0
  | month + 2 => daysBeforeMonth year (month + 1) + daysInMonth year (month + 1)

/-- The number of days in the calendar. -/
def calendarDays : Nat := daysBeforeYear (lastYear + 1)

/-- A day by year, month and day of the month. -/
structure Civil where
  year : Nat
  month : Nat
  day : Nat
deriving Repr, DecidableEq

/-- Whether a day is one of its month. -/
def Civil.isInMonth (d : Civil) : Bool :=
  1 ≤ d.month && d.month ≤ 12 && 1 ≤ d.day && d.day ≤ daysInMonth d.year d.month

/-- Whether the calendar has such a day. -/
def Civil.exists (d : Civil) : Bool := 1 ≤ d.year && d.year ≤ lastYear && d.isInMonth

/-- The number of a day. -/
def Civil.dayNumber (d : Civil) : Nat :=
  daysBeforeYear d.year + daysBeforeMonth d.year d.month + (d.day - 1)

/-- The year that a day number lies in: whole cycles of 400, 100, 4 and 1 years. The last day of a
cycle of 400 or of 4 years belongs to its last year. -/
def yearOfDayNumber (n : Nat) : Nat :=
  let n400 := n / 146097
  let r400 := n % 146097
  -- The last day of the cycle would start a fifth century.
  let n100 := min (r400 / 36524) 3
  let r100 := r400 - n100 * 36524
  let n4 := r100 / 1461
  let r4 := r100 % 1461
  let n1 := min (r4 / 365) 3
  400 * n400 + 100 * n100 + 4 * n4 + n1 + 1

/-- The month and the day of the month of the day with number `n` in its year, from month `month`
on; `left` bounds the months that are still tried. -/
def monthOfDay (year month n : Nat) : Nat → Nat × Nat
  | 0 => (month, n + 1)
  | left + 1 =>
    if n < daysInMonth year month then (month, n + 1)
    else monthOfDay year (month + 1) (n - daysInMonth year month) left

/-- The day with a given number. -/
def Civil.ofDayNumber (n : Nat) : Civil :=
  let year := yearOfDayNumber n
  let (month, day) := monthOfDay year 1 (n - daysBeforeYear year) 11
  ⟨year, month, day⟩

/-- The weekday of a day number, Monday being 0. -/
def weekday (n : Nat) : Nat := n % 7

/-- The number of the Monday that starts the first ISO week of a year, the week with the year's
first Thursday in it. The week of the year 1 starts on day 0. -/
def firstWeekMonday (year : Nat) : Int :=
  let first : Int := daysBeforeYear year
  let wd : Int := weekday (daysBeforeYear year)
  if 3 < wd then first - wd + 7 else first - wd

/-- Whether an ISO year has 53 weeks. -/
def hasLongWeekYear (year : Nat) : Bool :=
  let wd := weekday (daysBeforeYear year)
  wd == 3 || (wd == 2 && isLeap year)

/-- The day of an ISO week date, if the calendar has it. -/
def ofWeek? (year week day : Nat) : Option Civil :=
  let weekExists := 1 ≤ week && (week ≤ 52 || (week == 53 && hasLongWeekYear year))
  if 1 ≤ year && year ≤ lastYear && weekExists && 1 ≤ day && day ≤ 7 then
    let n := firstWeekMonday year + 7 * ((week : Int) - 1) + ((day : Int) - 1)
    if 0 ≤ n ∧ n < calendarDays then some (Civil.ofDayNumber n.toNat) else none
  else none

end AirQuality.Time
