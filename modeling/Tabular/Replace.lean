import Tabular.Rule.Basic
import Tabular.Table.Basic

/-!
# Replacing cells

The replacements of a list run in order, each on what the ones before it have left. A cell is replaced
as a whole, and only where row and column are selected.

* `Replacement.apply`: one replacement on one cell.
* `Table.mapPlaces`: changing cells at their places.
* `Table.replace`: a list of replacements on a table.
-/

namespace Tabular

/-- Whether a place of a table is selected for rows and columns. -/
def inScope (rows cols : Selector) (row column : Nat) : Bool :=
  rows.selects row && cols.selects column

namespace Replacement

/-- One replacement of the cell at a place. -/
def apply (row column : Nat) (c : Cell) (r : Replacement) : Cell :=
  if inScope r.rows r.cols row column && r.orig.strictlyEqual c then r.new else c

end Replacement

namespace Table

/-- A table with each cell changed by a function of its row, its column and itself. -/
def mapPlaces (f : Nat → Nat → Cell → Cell) (t : Table) : Table :=
  t.zipIdx.map fun (cells, row) => cells.zipIdx.map fun (c, column) => f row column c

/-- The table after all replacements. -/
def replace (rules : List Replacement) (t : Table) : Table :=
  t.mapPlaces fun row column c => rules.foldl (Replacement.apply row column) c

end Table

end Tabular
