import Tabular.Cell.Basic
import Tabular.Number.Integer

/-!
# Tables

A table is a list of rows, a row a list of cells. Rows may differ in length; the longest gives the
width. A cell is a table if it is a list of lists.

* `Table`: rows of cells.
* `Table.width`: the length of the longest row.
* `Table.ofCell`: the table that a cell is, or why it is none.
-/

namespace Tabular

/-- The cells of one line of a table. -/
abbrev Row := List Cell

/-- A list of rows. -/
abbrev Table := List Row

/-- The reasons why a cell is no table. -/
inductive ShapeError where
  /-- It is no list. -/
  | notRows (kind : String)
  /-- The row at an index is no list. -/
  | notCells (index : Nat) (kind : String)
deriving DecidableEq

/-- The wording of the errors; rows are told by their index. -/
def ShapeError.message : ShapeError → String
  | .notRows kind => "Table must be a list of rows, got " ++ kind
  | .notCells index kind =>
    "Row " ++ Integer.toText index ++ " must be a list of cells, got " ++ kind

namespace Table

/-- The length of the longest row. -/
def width (t : Table) : Nat :=
  t.foldr (fun row n => max row.length n) 0

/-- The cells of a list as rows, the first of which has the given index. -/
def rowsFrom (index : Nat) : List Cell → Except ShapeError Table
  | [] => .ok []
  | .list row :: cells => do return row :: (← rowsFrom (index + 1) cells)
  | c :: _ => .error (.notCells index c.kindName)

/-- A cell as a table. -/
def ofCell : Cell → Except ShapeError Table
  | .list cells => rowsFrom 0 cells
  | c => .error (.notRows c.kindName)

/-- A table as a list of lists. -/
def toCell (t : Table) : Cell :=
  .list (t.map .list)

/-- No row is longer than the table is wide. -/
theorem length_le_width {t : Table} {row : Row} (h : row ∈ t) : row.length ≤ t.width := by
  induction t with
  | nil => simp at h
  | cons r t ih =>
    simp only [width, List.foldr_cons]
    rcases List.mem_cons.mp h with rfl | h
    · exact Nat.le_max_left _ _
    · exact Nat.le_trans (ih h) (Nat.le_max_right _ _)

/-- Some row is as long as the table is wide. -/
theorem exists_length_eq_width {t : Table} (h : t ≠ []) : ∃ row ∈ t, row.length = t.width := by
  induction t with
  | nil => exact absurd rfl h
  | cons r t ih =>
    simp only [width, List.foldr_cons]
    rcases Nat.le_total (width t) r.length with hle | hle
    · exact ⟨r, List.mem_cons_self, (Nat.max_eq_left hle).symm⟩
    · by_cases ht : t = []
      · subst ht
        exact ⟨r, List.mem_cons_self, (Nat.max_eq_left (Nat.zero_le _)).symm⟩
      · obtain ⟨row, hrow, hlen⟩ := ih ht
        exact ⟨row, List.mem_cons_of_mem _ hrow, hlen.trans (Nat.max_eq_right hle).symm⟩

end Table

end Tabular
