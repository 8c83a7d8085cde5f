import Tabular.Table.Basic

/-!
# Rows and columns exchanged

Each column becomes a row. A row too short for a column has nothing to give to it, so tables of rows
of different lengths lose the places of their cells, but never a cell.

* `Table.column`: the cells of a column.
* `Table.transpose`: all columns as rows.
-/

namespace Tabular.Table

/-- The cells that stand at an index in the rows long enough to have it. -/
def column (t : Table) (index : Nat) : Row :=
  t.filterMap (·[index]?)

/-- The columns as rows. -/
def transpose (t : Table) : Table :=
  (List.range t.width).map t.column

end Tabular.Table
