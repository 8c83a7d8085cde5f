import Tabular.Selector

/-!
# Rules

What the operations are told to do: which rows or columns to leave out, which cells to replace, and
which texts to read as dates, truth values or numbers.

* `FilterRule`: a rule for rows or columns to leave out.
* `Replacement`: a cell to look for, one to put in, and where.
* `Interpretation`: what to read texts as, and where.
-/

namespace Tabular

/-- A condition on a row or a column. -/
inductive FilterRule where
  /-- It stands at a position: a number, a list of them, or a comparison in a text. -/
  | position (index : Cell)
  /-- It holds a value at a selected position. -/
  | value (selector : Selector) (val : Cell)
  /-- It meets all conditions of a group. -/
  | all (rules : List FilterRule)

/-- A cell to look for in selected rows and columns, and the cell that takes its place. -/
structure Replacement where
  orig : Cell
  new : Cell
  rows : Selector
  cols : Selector

/-- How texts in selected rows and columns are read: as dates under a format, as truth values by the
words of a record, as numbers. -/
structure Interpretation where
  numbers : Bool
  truthWords : List (String × Cell)
  dates : Option String
  rows : Selector
  cols : Selector

/-- The field that holds the word for true. -/
def trueKey : String := "trueVal"

/-- The field that holds the word for false. -/
def falseKey : String := "falseVal"

/-- The cells of the position rules of a list. -/
def positionRules (rules : List FilterRule) : List Cell :=
  rules.filterMap fun
    | .position index => some index
    | _ => none

/-- The selectors and values of the value rules in a list. -/
def valueRules (rules : List FilterRule) : List (Selector × Cell) :=
  rules.filterMap fun
    | .value selector val => some (selector, val)
    | _ => none

/-- The members of each group in a list. -/
def groupRules (rules : List FilterRule) : List (List FilterRule) :=
  rules.filterMap fun
    | .all rules => some rules
    | _ => none

end Tabular
