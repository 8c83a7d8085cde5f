import Tabular.Calendar.Date
import Tabular.Number.Integer

/-!
# Date and time

A time of the day to the microsecond, a date with such a time, the offset of a zone from universal
time, and the written form: date and time to the millisecond in universal time.

* `DateTime`: a date with a time of the day.
* `DateTime.ofReading`: the one that a clock shows, or the first fault in what it shows.
* `DateTime.toUniversal?`: the same moment on a clock in universal time.
* `DateTime.toText`: the written form.
* `Offset`: the distance of a clock to universal time, less than a day.
-/

namespace Tabular.Calendar

/-- The count of microseconds of a second. -/
def second : Nat := 1000000

/-- The seconds of a day. -/
def daySeconds : Nat := 86400

/-- The count of microseconds of a day. -/
def dayLength : Nat := daySeconds * second

/-- A date and the count of microseconds since its midnight. -/
structure DateTime where
  date : Date
  sinceMidnight : Nat
  within_day : sinceMidnight < dayLength
deriving DecidableEq

/-- The causes why numbers are no date and time. -/
inductive FieldError where
  | year (year : Int)
  | month
  | day
  | hour
  | minute
  | second
  | microsecond
deriving DecidableEq

/-- The wording of the errors; the year alone is told. -/
def FieldError.message : FieldError → String
  | .year y => s!"year {Integer.toText y} is out of range"
  | .month => "month must be in 1..12"
  | .day => "day is out of range for month"
  | .hour => "hour must be in 0..23"
  | .minute => "minute must be in 0..59"
  | .second => "second must be in 0..59"
  | .microsecond => "microsecond must be in 0..999999"

/-- A time and a date in numbers, not checked. -/
structure Reading where
  year : Int
  month : Int
  day : Int
  hour : Int
  minute : Int
  second : Int
  microsecond : Int

/-- What is wrong with numbers for a date and time, the year first. -/
def Reading.fault (r : Reading) : FieldError :=
  if ¬ (1 ≤ r.year ∧ r.year ≤ lastYear) then .year r.year
  else if ¬ (1 ≤ r.month ∧ r.month ≤ 12) then .month
  else if ¬ (1 ≤ r.day ∧ r.day ≤ daysInMonth r.year.toNat r.month.toNat) then .day
  else if ¬ (0 ≤ r.hour ∧ r.hour < 24) then .hour
  else if ¬ (0 ≤ r.minute ∧ r.minute < 60) then .minute
  else if ¬ (0 ≤ r.second ∧ r.second < 60) then .second
  else .microsecond

namespace DateTime

/-- The date and time with the given hour, minute, second and microsecond. -/
def ofDate? (date : Date) (h m s us : Nat) : Option DateTime :=
  if hv : h < 24 ∧ m < 60 ∧ s < 60 ∧ us < second then
    some ⟨date, ((h * 60 + m) * 60 + s) * second + us, by
      have : second = 1000000 := rfl
      simp only [dayLength, daySeconds, this] at *; omega⟩
  else none

/-- The date and time that seven numbers name. -/
def ofReading (r : Reading) : Except FieldError DateTime :=
  let made := do
    if 0 ≤ r.year ∧ 0 ≤ r.month ∧ 0 ≤ r.day ∧ 0 ≤ r.hour ∧ 0 ≤ r.minute ∧ 0 ≤ r.second ∧
        0 ≤ r.microsecond then
      let date ← Date.of? r.year.toNat r.month.toNat r.day.toNat
      ofDate? date r.hour.toNat r.minute.toNat r.second.toNat r.microsecond.toNat
    else none
  made.elim (.error r.fault) .ok

/-- The instant in microseconds, counted like the ordinals of the days. -/
def instant (t : DateTime) : Int :=
  t.date.ordinal * dayLength + t.sinceMidnight

/-- The date and time of an instant, unless it falls outside the calendar. -/
def ofInstant? (n : Int) : Option DateTime :=
  (Date.ofOrdinal? (n / dayLength)).map fun date =>
    ⟨date, (n % dayLength).toNat, by
      have : (0 : Int) < dayLength := by decide
      have := Int.emod_lt_of_pos n this
      have := Int.emod_nonneg n (b := dayLength) (by decide)
      omega⟩

/-- The same instant in universal time, for a clock that is `offset` microseconds ahead of it. -/
def toUniversal? (t : DateTime) (offset : Int) : Option DateTime :=
  ofInstant? (t.instant - offset)

/-- A number with at least a count of digits. -/
def padded (width n : Nat) : List Char :=
  let digits := Integer.naturalChars n
  List.replicate (width - digits.length) '0' ++ digits

/-- The written form: the year as it is, all else in two digits, and three for the milliseconds. -/
def toChars (t : DateTime) : List Char :=
  let seconds := t.sinceMidnight / second
  let milliseconds := t.sinceMidnight % second / 1000
  Integer.naturalChars t.date.year ++ '-' :: padded 2 t.date.month ++ '-' :: padded 2 t.date.day ++
    'T' :: padded 2 (seconds / 3600) ++ ':' :: padded 2 (seconds / 60 % 60) ++
    ':' :: padded 2 (seconds % 60) ++ '.' :: padded 3 milliseconds ++ ['Z']

/-- The written form of a date and time. -/
def toText (t : DateTime) : String :=
  String.ofList t.toChars

end DateTime

/-- The offset of a zone in microseconds, positive to the east and less than a day. -/
structure Offset where
  microseconds : Int
  less_than_day : microseconds.natAbs < dayLength
deriving DecidableEq

/-- A count of seconds that is no offset. -/
structure OffsetError where
  seconds : Int
deriving DecidableEq

/-- The written form of a span of seconds: whole days, counted downwards for a span into the past, and
the seconds of the last day; what is zero is left out. -/
def spanText (seconds : Int) : String :=
  let part (name : String) (n : Int) : List String :=
    if n = 0 then [] else [name ++ "=" ++ Integer.toText n]
  "datetime.timedelta(" ++
    ", ".intercalate (part "days" (seconds / daySeconds) ++ part "seconds" (seconds % daySeconds)) ++
    ")"

/-- The wording of the error: the limits and the span. -/
def OffsetError.message (e : OffsetError) : String :=
  "offset must be a timedelta strictly between -timedelta(hours=24) and timedelta(hours=24), not " ++
    spanText e.seconds ++ "."

namespace Offset

/-- The offset of so many microseconds. -/
def of? (n : Int) : Option Offset :=
  if h : n.natAbs < dayLength then some ⟨n, h⟩ else none

/-- The offset of so many seconds. -/
def ofSeconds (n : Int) : Except OffsetError Offset :=
  (of? (n * second)).elim (.error ⟨n⟩) .ok

end Offset

end Tabular.Calendar
