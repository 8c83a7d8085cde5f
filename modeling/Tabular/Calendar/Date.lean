/-!
# Dates

Days of the Gregorian calendar from the first of January of year 1 to the last of December of year
9999, counted through by their ordinals.

* `Date`: a day of the calendar.
* `Date.of?`: the date of a year, a month and a day, if they are one.
* `Date.ordinal`: the number of a day.
* `Date.ofOrdinal?`: the day of a number.
* `Date.weekday`: the day of the week.
-/

namespace Tabular.Calendar

/-- The last year of the calendar; the first one is 1. -/
def lastYear : Nat := 9999

/-- Every fourth year is a leap year, but of the full hundreds only every fourth. -/
def isLeapYear (year : Nat) : Bool :=
  year % 4 == 0 && (year % 100 != 0 || year % 400 == 0)

/-- The days of a year. -/
def daysInYear (year : Nat) : Nat :=
  if isLeapYear year then 366 else 365

/-- The lengths of the months of a year, from January on. -/
def monthLengths (year : Nat) : List Nat :=
  [31, if isLeapYear year then 29 else 28, 31, 30, 31, 30, 31, 31, 30, 31, 30, 31]

/-- The days of a month; there are none in a month behind December. -/
def daysInMonth (year month : Nat) : Nat :=
  (monthLengths year).getD (month - 1) 0

/-- The conditions on the year, month and day of a date. -/
def IsDate (year month day : Nat) : Prop :=
  (1 ≤ year ∧ year ≤ lastYear) ∧ (1 ≤ month ∧ month ≤ 12) ∧ 1 ≤ day ∧ day ≤ daysInMonth year month

/-- Whether three numbers are a date can be computed. -/
instance (y m d : Nat) : Decidable (IsDate y m d) := by
  unfold IsDate; infer_instance

/-- A day of the calendar. -/
structure Date where
  year : Nat
  month : Nat
  day : Nat
  isDate : IsDate year month day
deriving DecidableEq

namespace Date

/-- The date with the given year, month and day. -/
def of? (year month day : Nat) : Option Date :=
  if h : IsDate year month day then some ⟨year, month, day, h⟩ else none

/-- The days of all years before a year, from the first day of year 1 on. -/
def daysBeforeYear (year : Nat) : Nat :=
  let y := year - 1
  y * 365 + y / 4 - y / 100 + y / 400

/-- The count of days of a year before one of its months. -/
def daysBeforeMonth (year month : Nat) : Nat :=
  ((monthLengths year).take (month - 1)).foldr (· + ·) 0

/-- The number of a day, where the first of January of year 1 has the number 1. -/
def ordinal (d : Date) : Nat :=
  daysBeforeYear d.year + daysBeforeMonth d.year d.month + d.day

/-- The month, counted from `month` on, and the day in it of the day with the given index, counted
from zero, when the months have the given lengths. -/
def findMonth (month index : Nat) : List Nat → Nat × Nat
  | [] => (month, index + 1)
  | n :: ns => if index < n then (month, index + 1) else findMonth (month + 1) (index - n) ns

/-- The year of the day with the given index, counted from zero, and the index of the day in it.
Years are gathered in groups of 400, 100 and 4, the last group of each kind being a day longer. -/
def findYear (index : Nat) : Nat × Nat :=
  let n400 := index / 146097
  let r400 := index % 146097
  let n100 := min 3 (r400 / 36524)
  let r100 := r400 - n100 * 36524
  let n4 := r100 / 1461
  let r4 := r100 % 1461
  let n1 := min 3 (r4 / 365)
  (400 * n400 + 100 * n100 + 4 * n4 + n1 + 1, r4 - n1 * 365)

/-- The day with the given number. -/
def ofOrdinal? (n : Int) : Option Date :=
  if n < 1 then none
  else
    let (year, index) := findYear (n.toNat - 1)
    let (month, day) := findMonth 1 index (monthLengths year)
    of? year month day

/-- The day of the week, Monday being 0. -/
def weekday (d : Date) : Nat :=
  (d.ordinal + 6) % 7

end Date

end Tabular.Calendar
