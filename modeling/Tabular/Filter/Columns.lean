import Tabular.Filter.Position
import Tabular.Filter.Quorum
import Tabular.Table.Basic

/-!
# Leaving out columns

A column goes if a position rule leaves it out, if a value rule finds its value in it in one of the
selected rows, or if a group selects it. A group starts from the columns that its position rules leave
out, or from all columns, keeps those that all groups in it select, and of these those that its value
rules vote out as one.

* `Table.columnsByPosition`: the columns that position rules leave out.
* `Table.columnsByValue`: the columns that hold the value of a rule.
* `Table.columnsByGroup`: the columns that meet a group.
* `Table.selectedColumns`: all columns that go.
* `Table.ignoreColumns`: the table without them.
-/

namespace Tabular

/-- Whether a value stands in a column in one of some rows. -/
def columnHolds (rows : List Row) (column : Nat) (val : Cell) : Bool :=
  rows.any fun row => (row[column]?).any fun c => c.strictlyEqual val

/-- The columns that position rules leave out. -/
def Table.columnsByPosition (rules : List FilterRule) (t : Table) : List Nat :=
  (List.range t.width).filter fun column => FilterRule.excludes rules column

namespace FilterRule

/-- The columns that a group starts from. -/
def candidates (t : Table) (rules : List FilterRule) : List Nat :=
  if (positionRules rules).isEmpty then List.range t.width else t.columnsByPosition rules

/-- Whether the value rules of a group select a column: there are none, or no vote keeps it. -/
def votedOut (t : Table) (rules : List FilterRule) (column : Nat) : Bool :=
  let votes := (valueRules rules).map fun (selector, val) =>
    !columnHolds (selector.pick t) column val
  votes.isEmpty || !Quorum.single.decide votes

mutual

/-- The candidates that a rule of a group leaves over, if it is a group itself. -/
def narrow (t : Table) (columns : List Nat) : FilterRule → List Nat
  | position _ => columns
  | value _ _ => columns
  | all rules =>
    let selected := (narrowAll t (candidates t rules) rules).filter (votedOut t rules)
    columns.filter selected.contains

/-- The candidates that the groups among rules leave over, one after another. -/
def narrowAll (t : Table) (columns : List Nat) : List FilterRule → List Nat
  | [] => columns
  | rule :: rules => narrowAll t (narrow t columns rule) rules

end

end FilterRule

namespace Table

/-- The columns in which value rules find their values, in the order found, with repeats. -/
def columnsByValue (rules : List FilterRule) (t : Table) : List Nat :=
  (valueRules rules).flatMap fun (selector, val) =>
    (selector.pick t).flatMap fun row =>
      (row.zipIdx.filter fun (c, _) => c.strictlyEqual val).map Prod.snd

/-- The columns that a group selects. -/
def columnsByGroup (group : List FilterRule) (t : Table) : List Nat :=
  (FilterRule.narrowAll t (FilterRule.candidates t group) group).filter
    (FilterRule.votedOut t group)

/-- The table without the columns that meet a condition. -/
def removeColumns (drops : Nat → Bool) (t : Table) : Table :=
  t.map fun row => (row.zipIdx.filter fun (_, column) => !drops column).map Prod.fst

/-- The columns that rules select. -/
def selectedColumns (rules : List FilterRule) (t : Table) : List Nat :=
  t.columnsByPosition rules ++ t.columnsByValue rules ++
    (groupRules rules).flatMap fun group => t.columnsByGroup group

/-- The table without the columns that rules select. -/
def ignoreColumns (rules : List FilterRule) (t : Table) : Table :=
  let drop := t.selectedColumns rules
  t.removeColumns drop.contains

end Table

end Tabular
