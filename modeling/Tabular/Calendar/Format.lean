import Tabular.Calendar.Fields

/-!
# Reading dates by a format

A text is read as a date (`DateTime.ofFormat`) only if the format is well formed, the whole text matches it
and the fields give a date. Otherwise nothing is read, with two exceptions that are errors (`DateError`): a
format that names a field twice, and a date that universal time moves out of the calendar.
-/

namespace Tabular.Calendar

/-- The errors of reading dates. -/
inductive DateError where
  | repeated (field : RepeatedField)
  | outOfRange
deriving DecidableEq

/-- The wording of the errors. -/
def DateError.message : DateError → String
  | .repeated field => field.message
  | .outOfRange => "date value out of range"

namespace DateTime

/-- The date and time in universal time, for a clock with the given offset; a clock without one
shows universal time. -/
def universal (t : DateTime) : Option Offset → Except DateError DateTime
  | none => .ok t
  | some offset => (t.toUniversal? offset.microseconds).elim (.error .outOfRange) .ok

/-- The date and time, with an offset if one is written, that a text gives under a pattern. -/
def ofPattern? (iso : IsoRule) (p : Pattern) (text : List Char) : Option (DateTime × Option Offset) :=
  (p.match? text).bind fun captures => (Fields.ofCaptures? captures).bind (Fields.resolve? iso)

/-- The date and time in universal time that a text gives under a format, if it gives any. -/
def ofFormat (iso : IsoRule) (format text : List Char) : Except DateError (Option DateTime) :=
  match Pattern.ofChars? format with
  | none => .ok none
  | some p =>
    match p.repeated? with
    | some field => .error (.repeated field)
    | none =>
      match ofPattern? iso p text with
      | none => .ok none
      | some (t, offset) => (t.universal offset).map some

end DateTime

end Tabular.Calendar
