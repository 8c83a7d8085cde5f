import Tabular.Calendar.Pattern
import Tabular.Calendar.DateTime

/-!
# From fields to a date and time

The captures of a pattern are collected field by field, later ones over earlier ones
(`Fields.ofCaptures?`), and then completed (`Fields.resolve?`): a year and a month and a day, or a year
and a day of it, or a year, a week and a weekday, or an ISO year, week and weekday. What is missing counts
as the midnight that begins the year 1900. What may stand beside an ISO year or an ISO week is fixed by
one of two rules (`IsoRule`).
-/

namespace Tabular.Calendar

open Text

/-- On which day the weeks of a year begin. -/
inductive WeekStart where
  | sunday
  | monday
deriving DecidableEq

/-- What may stand beside an ISO year or an ISO week; calendars are found under either rule. -/
inductive IsoRule where
  /-- Beside another year the ISO year is not looked at, and an ISO week gives way to another week. -/
  | lenient
  /-- An ISO year and an ISO week always go together, with a weekday. -/
  | strict
deriving DecidableEq

/-- What the fields of a date text say. -/
structure Fields where
  year : Option Nat := none
  isoYear : Option Nat := none
  month : Nat := 1
  day : Nat := 1
  hour : Nat := 0
  minute : Nat := 0
  second : Nat := 0
  microsecond : Nat := 0
  weekday : Option Nat := none
  dayOfYear : Option Nat := none
  week : Option (WeekStart × Nat) := none
  isoWeek : Option Nat := none
  offset : Option Int := none
deriving DecidableEq

/-- The position of a name in a list of names, regardless of case. -/
def namePosition? (names : List String) (cs : List Char) : Option Nat :=
  names.findIdx? fun n => n.toList == cs.map Char.toLower

/-- Two digits name a year of the century around 2000, from 1969 to 2068. -/
def fullYear (n : Nat) : Nat :=
  if n ≤ 68 then 2000 + n else 1900 + n

/-- The hour of the day for an hour of one of its halves; without a half the first one is meant. -/
def hourOfDay (hour : Nat) (secondHalf : Bool) : Nat :=
  hour % 12 + if secondHalf then 12 else 0

/-- Digits of a fraction as a count of millionths. -/
def millionths (digits : List Char) : Nat :=
  digitsValue digits * Nat.pow 10 (6 - digits.length)

/-- A colon, if one stands at the head of the text, and the rest. -/
def readColon : List Char → Bool × List Char
  | ':' :: cs => (true, cs)
  | cs => (false, cs)

/-- The microseconds of an offset: hours, minutes and, if given, seconds and their fraction. Colons
stand between all of them or between none. -/
def offsetSize? (cs : List Char) : Option Nat :=
  let (colon, tail) := readColon (cs.drop 2)
  let minutes := (digitsValue (cs.take 2) * 60 + digitsValue (tail.take 2)) * 60
  let tail := tail.drop 2
  if tail = [] then some (minutes * second)
  else
    let (secondColon, tail) := readColon tail
    if colon = secondColon then
      some ((minutes + digitsValue (tail.take 2)) * second + millionths (tail.drop 3))
    else none

/-- The microseconds of a captured offset. -/
def readOffset? : List Char → Option Int
  | '+' :: cs => (offsetSize? cs).map fun n => (n : Int)
  | '-' :: cs => (offsetSize? cs).map fun n => -(n : Int)
  | _ => some 0

namespace Fields

/-- Whether the captures name the second half of the day. -/
def secondHalf (captures : List Capture) : Bool :=
  captures.any fun (d, cs) => d == .halfDay && namePosition? halfDayNames cs == some 1

/-- The fields with one capture more; names that are only nearly spelled fail. -/
def add? (captures : List Capture) (f : Fields) : Capture → Option Fields
  | (.weekdayName, cs) => do return { f with weekday := ← namePosition? weekdayNames cs }
  | (.weekdayShort, cs) => do
    return { f with weekday := ← namePosition? (weekdayNames.map abbreviate) cs }
  | (.monthName, cs) => do return { f with month := (← namePosition? monthNames cs) + 1 }
  | (.monthShort, cs) => do
    return { f with month := (← namePosition? (monthNames.map abbreviate) cs) + 1 }
  | (.day, cs) => some { f with day := digitsValue cs }
  | (.microsecond, cs) => some { f with microsecond := millionths cs }
  | (.isoYear, cs) => some { f with isoYear := digitsValue cs }
  | (.hour24, cs) => some { f with hour := digitsValue cs }
  | (.hour12, cs) => some { f with hour := hourOfDay (digitsValue cs) (secondHalf captures) }
  | (.dayOfYear, cs) => some { f with dayOfYear := digitsValue cs }
  | (.month, cs) => some { f with month := digitsValue cs }
  | (.minute, cs) => some { f with minute := digitsValue cs }
  | (.halfDay, _) => some f
  | (.second, cs) => some { f with second := digitsValue cs }
  | (.sundayWeek, cs) => some { f with week := some (.sunday, digitsValue cs) }
  | (.isoWeekday, cs) => some { f with weekday := some (digitsValue cs - 1) }
  | (.isoWeek, cs) => some { f with isoWeek := digitsValue cs }
  | (.weekday, cs) => some { f with weekday := some ((digitsValue cs + 6) % 7) }
  | (.mondayWeek, cs) => some { f with week := some (.monday, digitsValue cs) }
  | (.shortYear, cs) => some { f with year := fullYear (digitsValue cs) }
  | (.year, cs) => some { f with year := digitsValue cs }
  | (.offset, cs) => do return { f with offset := ← readOffset? cs }
  | (.zone, _) => some f

/-- The fields of all captures. -/
def ofCaptures? (captures : List Capture) : Option Fields :=
  captures.foldlM (add? captures) {}

/-- An ISO year goes with an ISO week and a weekday, and not with a day of the year, and an ISO week
without an ISO year is refused. Under the lenient rule the first is asked only where there is no other
year; in all other cases an ISO week is refused only if there is no week of another kind. -/
def isoConsistent (iso : IsoRule) (f : Fields) : Bool :=
  let complete := f.isoWeek.isSome && f.weekday.isSome && f.dayOfYear.isNone
  match iso with
  | .lenient =>
    if f.year.isNone && f.isoYear.isSome then complete else f.isoWeek.isNone || f.week.isSome
  | .strict => if f.isoYear.isSome then complete else f.isoWeek.isNone

/-- Without a year, the 29th of February has to be looked up in a leap year. -/
def isYearlessLeapDay (f : Fields) : Bool :=
  f.year.isNone && f.month == 2 && f.day == 29

/-- The year to compute with. -/
def baseYear (f : Fields) : Nat :=
  f.year.getD (if f.isYearlessLeapDay then 1904 else 1900)

/-- The day of the year for a week and a weekday; the days before the first beginning of a week form
week 0. Days of the year before are counted from zero downwards. -/
def dayOfWeek? (year : Nat) (start : WeekStart) (week weekday : Nat) : Option Int := do
  let first := (← Date.of? year 1 1).weekday
  let (first, weekday) := match start with
    | .sunday => ((first + 1) % 7, (weekday + 1) % 7)
    | .monday => (first, weekday)
  if week = 0 then return 1 + weekday - first
  else return 1 + ((7 - first) % 7 + 7 * (week - 1) : Nat) + weekday

/-- The year and the day of it for an ISO week and a weekday: week 1 holds the 4th of January. -/
def dayOfIsoWeek? (year week weekday : Nat) : Option (Int × Int) := do
  let fourth ← Date.of? year 1 4
  let day : Int := week * 7 + (weekday + 1) - (fourth.weekday + 1 + 3)
  if day < 1 then
    let this ← Date.of? year 1 1
    let last ← Date.of? (year - 1) 1 1
    return (year - 1, day + this.ordinal - last.ordinal)
  else return (year, day)

/-- A day counted from zero downwards belongs to the year before. -/
def borrowYear (year day : Int) : Int × Int :=
  if day ≤ 0 then (year - 1, day + daysInYear (year - 1).toNat) else (year, day)

/-- The year and the day of it, if the fields give one other than by month and day. -/
def yearAndDay? (f : Fields) : Option (Option (Int × Int)) :=
  match f.dayOfYear, f.weekday, f.week, f.isoYear, f.isoWeek with
  | some n, _, _, _, _ => some (some (f.baseYear, n))
  | none, some weekday, some (start, week), _, _ =>
    (dayOfWeek? f.baseYear start week weekday).map fun day => some (borrowYear f.baseYear day)
  | none, some weekday, none, some year, some week =>
    (dayOfIsoWeek? year week weekday).map fun (year, day) => some (borrowYear year day)
  | _, _, _, _, _ => some none

/-- The date that the fields give, in the year to compute with. -/
def date? (f : Fields) : Option Date := do
  match ← f.yearAndDay? with
  | none => Date.of? f.baseYear f.month f.day
  | some (year, day) =>
    let first ← Date.of? year.toNat 1 1
    Date.ofOrdinal? (first.ordinal + day - 1)

/-- The date and time that the fields give, and the offset of its zone. -/
def resolve? (iso : IsoRule) (f : Fields) : Option (DateTime × Option Offset) := do
  guard (f.isoConsistent iso)
  let date ← f.date?
  let date ← if f.isYearlessLeapDay then Date.of? 1900 date.month date.day else some date
  let time ← DateTime.ofDate? date f.hour f.minute f.second f.microsecond
  match f.offset with
  | none => return (time, none)
  | some n => return (time, some (← Offset.of? n))

end Fields

end Tabular.Calendar
