import Tabular.Calendar.Directive
import Tabular.Number.Integer

/-!
# Date patterns

A date format is read into a pattern: fields, blanks and characters that stand for themselves. Some
directives abbreviate several fields. A run of blanks in a format stands for any run of blanks. A
pattern is matched against a whole text, item by item; each field takes what it prefers first and
gives way only if the items behind it cannot match.

* `Pattern`: a format that has been read.
* `Pattern.ofChars?`: reading a format.
* `Pattern.repeated?`: the field that a pattern names twice, which is an error of its own.
* `Pattern.match?`: what the fields capture of a text.
-/

namespace Tabular.Calendar

open Text

/-- One place of a date pattern. -/
inductive PatternItem where
  /-- A field. -/
  | field (d : Directive)
  /-- At least one blank. -/
  | blanks
  /-- A character in any case. -/
  | literal (c : Char)
deriving DecidableEq

/-- A date pattern. -/
abbrev Pattern := List PatternItem

/-- What a field took from a text. -/
abbrev Capture := Directive × List Char

/-- What an item is searched for as. -/
def PatternItem.expression : PatternItem → Expression
  | .field d => d.expression
  | .blanks => .many .blank
  | .literal c => .char c

/-- A pattern that names a field a second time: the letter of the field, the numbers of the new and
of the old group in the written expression, and the place of the new name in it. -/
structure RepeatedField where
  letter : Char
  group : Nat
  firstGroup : Nat
  position : Nat
deriving DecidableEq

/-- The wording of the error, with the numbers of both groups and the place of the second one. -/
def RepeatedField.message (e : RepeatedField) : String :=
  "redefinition of group name '" ++ String.singleton e.letter ++ "' as group " ++
    Integer.toText e.group ++ "; was group " ++ Integer.toText e.firstGroup ++ " at position " ++
    Integer.toText e.position

namespace Pattern

/-- The time of the day, with colons. -/
def timeOfDay : Pattern :=
  [.field .hour24, .literal ':', .field .minute, .literal ':', .field .second]

/-- The month, the day and the year in two digits, with slashes. -/
def shortDate : Pattern :=
  [.field .month, .literal '/', .field .day, .literal '/', .field .shortYear]

/-- The names of weekday and month, the day, the time and the year, with blanks. -/
def longDate : Pattern :=
  [.field .weekdayShort, .blanks, .field .monthShort, .blanks, .field .day, .blanks] ++ timeOfDay ++
    [.blanks, .field .year]

/-- The items that a letter behind a percent sign stands for. -/
def ofLetter? (c : Char) : Option Pattern :=
  if c = '%' then some [.literal '%']
  else if c = 'c' then some longDate
  else if c = 'x' then some shortDate
  else if c = 'X' then some timeOfDay
  else (Directive.ofLetter? c).map fun d => [.field d]

/-- Reads a format; a percent sign needs a known letter behind it. -/
def ofChars? : List Char → Option Pattern
  | [] => some []
  | ['%'] => none
  | '%' :: c :: cs => do return (← ofLetter? c) ++ (← ofChars? cs)
  | c :: cs => do
    let rest ← ofChars? cs
    if !isBlank c then return .literal c :: rest
    else if cs.head?.any isBlank then return rest
    else return .blanks :: rest

/-- Looks for a field that was named before. `seen` holds the letters with their group numbers,
`groups` and `length` count the groups and characters of the expression written so far. -/
def findRepeated (seen : List (Char × Nat)) (groups length : Nat) : Pattern → Option RepeatedField
  | [] => none
  | item :: items =>
    let e := item.expression
    let next seen := findRepeated seen (groups + e.groups) (length + e.source.length) items
    match item with
    | .field d =>
      match seen.lookup d.letter with
      | some first => some ⟨d.letter, groups + 1, first, length + "(?P<".length⟩
      | none => next ((d.letter, groups + 1) :: seen)
    | _ => next seen

/-- The first field of a pattern that was named before. -/
def repeated? (p : Pattern) : Option RepeatedField :=
  findRepeated [] 0 0 p

/-- The preferred match of a pattern at the beginning of a text, and the rest of the text. -/
def matchStart? : Pattern → List Char → Option (List Capture × List Char)
  | [], cs => some ([], cs)
  | item :: items, cs =>
    (item.expression.splits cs).findSome? fun (taken, rest) =>
      (matchStart? items rest).map fun (captures, rest) =>
        match item with
        | .field d => ((d, taken) :: captures, rest)
        | _ => (captures, rest)

/-- The captures of the preferred match, if it reaches the end of the text. -/
def match? (p : Pattern) (cs : List Char) : Option (List Capture) :=
  match matchStart? p cs with
  | some (captures, []) => some captures
  | _ => none

end Pattern

end Tabular.Calendar
