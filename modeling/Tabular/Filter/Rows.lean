import Tabular.Filter.Position
import Tabular.Filter.Quorum
import Tabular.Table.Basic

/-!
# Leaving out rows

A row goes if it meets any rule of a list, and it meets a group if it meets every rule in it. The
position rules of a group decide for the whole group.

* `FilterRule.vote?`: the vote of a rule.
* `FilterRule.keepsAsList`, `keepsAsGroup`: whether rules keep a row, each for itself or as a whole.
* `Table.ignoreRows`: the table without the rows that are not kept.
-/

namespace Tabular

/-- Whether a line holds a value at a selected position. -/
def holdsValue (selector : Selector) (val : Cell) (line : Row) : Bool :=
  (selector.pick line).any fun c => c.strictlyEqual val

namespace FilterRule

mutual

/-- The vote of a value rule or a group on a row. In a group, position rules decide, or else any of
the other members may keep the row. -/
def vote? (row : Row) (index : Nat) : FilterRule → Option Bool
  | position _ => none
  | value selector val => some (!holdsValue selector val row)
  | all rules =>
    some (if (positionRules rules).isEmpty then Quorum.single.decide (votes row index rules)
      else !excludes rules index)

/-- The votes of the value rules and groups of a list on a row. -/
def votes (row : Row) (index : Nat) : List FilterRule → List Bool
  | [] => []
  | rule :: rules => (vote? row index rule).toList ++ votes row index rules

end

/-- Whether a group keeps a row. -/
def keepsAsGroup (row : Row) (index : Nat) (rules : List FilterRule) : Bool :=
  (vote? row index (all rules)).getD true

/-- Whether a list of rules keeps a row: the position rules and all others have to. -/
def keepsAsList (row : Row) (index : Nat) (rules : List FilterRule) : Bool :=
  !excludes rules index && Quorum.unanimous.decide (votes row index rules)

/-- Whether rules keep a row, as a list for every one of which it has to be kept or as a group that
has to be met as a whole. -/
def keeps (q : Quorum) (row : Row) (index : Nat) (rules : List FilterRule) : Bool :=
  match q with
  | .unanimous => keepsAsList row index rules
  | .single => keepsAsGroup row index rules

end FilterRule

namespace Table

/-- The votes of rules on the rows of a table. -/
def keptRows (q : Quorum) (rules : List FilterRule) (t : Table) : List Bool :=
  t.zipIdx.map fun (row, index) => FilterRule.keeps q row index rules

/-- The table without the rows that meet a rule. -/
def ignoreRows (rules : List FilterRule) (t : Table) : Table :=
  (t.zipIdx.filter fun (row, index) => FilterRule.keepsAsList row index rules).map Prod.fst

end Table

end Tabular
