import Tabular.Text.Expression

/-!
# Directives

The fields of a date format. Each is named by a letter behind a percent sign and described by the
expression for what may stand in its place.

* `Directive`: the fields of a format.
* `Directive.ofLetter?`: the field of a letter.
* `Directive.expression`: what may stand in the place of a field.
-/

namespace Tabular.Calendar

open Text Expression

/-- A field of a date format. -/
inductive Directive where
  | weekdayName
  | weekdayShort
  | monthName
  | monthShort
  | day
  | microsecond
  | isoYear
  | hour24
  | hour12
  | dayOfYear
  | month
  | minute
  | halfDay
  | second
  | sundayWeek
  | isoWeekday
  | isoWeek
  | weekday
  | mondayWeek
  | shortYear
  | year
  | offset
  | zone
deriving DecidableEq

/-- The names of the days of the week, from Monday on. -/
def weekdayNames : List String :=
  ["monday", "tuesday", "wednesday", "thursday", "friday", "saturday", "sunday"]

/-- The names of the months. No name of a month or a day begins another. -/
def monthNames : List String :=
  ["january", "february", "march", "april", "may", "june", "july", "august", "september",
    "october", "november", "december"]

/-- The first three letters of a name. -/
def abbreviate (name : String) : String :=
  String.ofList (name.toList.take 3)

/-- The names of the halves of the day. -/
def halfDayNames : List String := ["am", "pm"]

/-- The names of universal time. -/
def zoneNames : List String := ["utc", "gmt"]

namespace Directive

/-- The letter that stands for a directive behind the percent sign. -/
def letter : Directive → Char
  | weekdayName => 'A'
  | weekdayShort => 'a'
  | monthName => 'B'
  | monthShort => 'b'
  | day => 'd'
  | microsecond => 'f'
  | isoYear => 'G'
  | hour24 => 'H'
  | hour12 => 'I'
  | dayOfYear => 'j'
  | month => 'm'
  | minute => 'M'
  | halfDay => 'p'
  | second => 'S'
  | sundayWeek => 'U'
  | isoWeekday => 'u'
  | isoWeek => 'V'
  | weekday => 'w'
  | mondayWeek => 'W'
  | shortYear => 'y'
  | year => 'Y'
  | offset => 'z'
  | zone => 'Z'

/-- All directives. -/
def all : List Directive :=
  [weekdayName, weekdayShort, monthName, monthShort, day, microsecond, isoYear, hour24, hour12,
    dayOfYear, month, minute, halfDay, second, sundayWeek, isoWeekday, isoWeek, weekday, mondayWeek,
    shortYear, year, offset, zone]

/-- The directive of a letter. -/
def ofLetter? (c : Char) : Option Directive :=
  all.find? fun d => d.letter == c

/-- A two-digit week number up to 53. -/
def weekNumber : Expression :=
  choice [both (char '5') (interval '0' '3'), both (interval '0' '4') digit, digit]

/-- What may stand in the place of a directive. -/
def body : Directive → Expression
  | weekdayName => words weekdayNames
  | weekdayShort => words (weekdayNames.map abbreviate)
  | monthName => words monthNames
  | monthShort => words (monthNames.map abbreviate)
  | day => choice [both (char '3') (interval '0' '1'), both (interval '1' '2') digit,
      both (char '0') (interval '1' '9'), interval '1' '9', both (char ' ') (interval '1' '9')]
  | microsecond => upTo 6 (.between '0' '9')
  | isoYear => sequence [digit, digit, digit, digit]
  | hour24 => choice [both (char '2') (interval '0' '3'), both (interval '0' '1') digit, digit]
  | hour12 => choice [both (char '1') (interval '0' '2'), both (char '0') (interval '1' '9'),
      interval '1' '9']
  | dayOfYear => choice [sequence [char '3', char '6', interval '0' '6'],
      sequence [char '3', interval '0' '5', digit], sequence [interval '1' '2', digit, digit],
      sequence [char '0', interval '1' '9', digit], sequence [char '0', char '0', interval '1' '9'],
      both (interval '1' '9') digit, both (char '0') (interval '1' '9'), interval '1' '9']
  | month => choice [both (char '1') (interval '0' '2'), both (char '0') (interval '1' '9'),
      interval '1' '9']
  | minute => choice [both (interval '0' '5') digit, digit]
  | halfDay => words halfDayNames
  | second => choice [both (char '6') (interval '0' '1'), both (interval '0' '5') digit, digit]
  | sundayWeek => weekNumber
  | isoWeekday => interval '1' '7'
  | isoWeek => choice [both (char '5') (interval '0' '3'), both (char '0') (interval '1' '9'),
      both (interval '1' '4') digit, digit]
  | weekday => interval '0' '6'
  | mondayWeek => weekNumber
  | shortYear => both digit digit
  | year => sequence [digit, digit, digit, digit]
  | offset => choice [
      sequence [one (.among ['+', '-']), digit, digit, optional (char ':'), interval '0' '5', digit,
        optional (group (sequence [optional (char ':'), interval '0' '5', digit,
          optional (group (both (char '.') (upTo 6 .digit)))]))],
      one (.exactly 'Z')]
  | zone => words zoneNames

/-- The expression of a directive, a group under its letter. -/
def expression (d : Directive) : Expression :=
  named d.letter d.body

/-- A directive is found by its letter. -/
theorem ofLetter?_letter (d : Directive) : ofLetter? d.letter = some d := by
  cases d <;> rfl

end Directive

end Tabular.Calendar
