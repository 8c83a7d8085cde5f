import Mathlib.Data.List.Basic
import Mathlib.Tactic.Lemma
import Tabular.Filter.Columns
import Tabular.Table.Transpose

/-!
# Places of exchanged tables

Where the cells of a table are after rows and columns are exchanged, and how tables are written as rows
and columns of the values of a function.

* `Table.Rectangular`: all rows are as long as the table is wide.
* `getElem?_transpose`, `getElem?_column`: where cells are.
* `transpose_removeColumns`: columns removed before the exchange.
-/

namespace Tabular

/-- All rows are as long as the table is wide. -/
def Table.Rectangular (t : Table) : Prop :=
  ∀ row ∈ t, row.length = t.width

/-- What is made of the numbers below a bound has these as its places. -/
lemma zipIdx_map_range {α : Type} (n : Nat) (f : Nat → α) :
    ((List.range n).map f).zipIdx = (List.range n).map fun i => (f i, i) := by
  apply List.ext_getElem
  · simp
  · intro i h h'
    simp

/-- A row is the row of the cells at its indices. -/
lemma map_getD_range (row : Row) :
    (List.range row.length).map (fun c => row.getD c .null) = row := by
  apply List.ext_getElem
  · simp
  · intro i h h'
    simp [h']

/-- The cells of a row outside of some columns. -/
lemma removeColumns_row (drops : Nat → Bool) (row : Row) :
    (row.zipIdx.filter fun (_, c) => !drops c).map Prod.fst =
      ((List.range row.length).filter fun c => !drops c).map fun c => row.getD c .null := by
  conv_lhs => rw [← map_getD_range row, zipIdx_map_range]
  simp only [List.filter_map, List.map_map]
  rfl

namespace Table

/-- The width of a table with rows of one length is that length. -/
lemma width_of_length {t : Table} {n : Nat} (h : ∀ row ∈ t, row.length = n) (hn : t = [] → n = 0) :
    t.width = n := by
  induction t with
  | nil => exact (hn rfl).symm
  | cons row t ih =>
    obtain ⟨hrow, hrows⟩ := List.forall_mem_cons.mp h
    cases t with
    | nil => simp [width, hrow]
    | cons row' t =>
      have hw := ih hrows fun e => absurd e (List.cons_ne_nil _ _)
      simp only [width, List.foldr_cons] at hw ⊢
      omega

/-- The rows of an exchanged table are its columns. -/
lemma getElem?_transpose (t : Table) (c : Nat) :
    t.transpose[c]? = if c < t.width then some (t.column c) else none := by
  simp only [transpose, List.getElem?_map]
  split
  · rename_i h
    simp [h]
  · rename_i h
    simp [h]

/-- A column that all rows reach has a cell of each. -/
lemma column_eq_map {t : Table} {c : Nat} (h : ∀ row ∈ t, c < row.length) :
    t.column c = t.map fun row => row.getD c .null := by
  induction t with
  | nil => rfl
  | cons row t ih =>
    obtain ⟨hrow, hrows⟩ := List.forall_mem_cons.mp h
    have hc : row[c]? = some (row.getD c .null) := by simp [hrow]
    rw [column, List.filterMap_cons, hc, List.map_cons]
    exact congrArg _ (ih hrows)

/-- A column that all rows reach has its cells at the places of their rows. -/
lemma getElem?_column {t : Table} {c : Nat} (h : ∀ row ∈ t, c < row.length) (p : Nat) :
    (t.column c)[p]? = t[p]?.bind fun row => row[c]? := by
  rw [column_eq_map h, List.getElem?_map]
  cases e : t[p]? with
  | none => rfl
  | some row =>
    have hrow := h row (List.mem_of_getElem? e)
    simp [hrow]

/-- Exchanging the rows and columns of the values of a function. -/
lemma transpose_map_map {α : Type} (rows : List α) (ks : List Nat) (f : α → Nat → Cell)
    (h : rows = [] → ks = []) :
    transpose (rows.map fun r => ks.map (f r)) = ks.map fun k => rows.map fun r => f r k := by
  have hw : width (rows.map fun r => ks.map (f r)) = ks.length := by
    apply width_of_length
    · intro row hrow
      obtain ⟨r, -, rfl⟩ := List.mem_map.mp hrow
      exact List.length_map _
    · intro e
      simp [h (List.map_eq_nil_iff.mp e)]
  -- Both sides have a row at an index if it is one of the columns, and then its cells come from each row.
  apply List.ext_getElem?
  intro j
  rw [getElem?_transpose, hw, List.getElem?_map]
  split
  · rename_i hj
    rw [column_eq_map, List.getElem?_eq_getElem hj, List.map_map, Option.map_some]
    · refine congrArg some (List.map_congr_left fun r _ => ?_)
      simp [hj]
    · intro row hrow
      obtain ⟨r, -, rfl⟩ := List.mem_map.mp hrow
      simpa using hj
  · rename_i hj
    simp [List.getElem?_eq_none (Nat.le_of_not_lt hj)]

/-- Columns that are left out of a rectangular table are left out of its exchanged table as rows. -/
lemma transpose_removeColumns {t : Table} (ht : t.Rectangular) (drops : Nat → Bool) :
    (t.removeColumns drops).transpose =
      ((List.range t.width).filter fun c => !drops c).map t.column := by
  have hrows : t.removeColumns drops = t.map fun row =>
      ((List.range t.width).filter fun c => !drops c).map fun c => row.getD c .null := by
    refine List.map_congr_left fun row hrow => ?_
    rw [removeColumns_row, ht row hrow]
  rw [hrows, transpose_map_map]
  · refine List.map_congr_left fun c hc => (column_eq_map fun row hrow => ?_).symm
    rw [ht row hrow]
    exact List.mem_range.mp (List.mem_filter.mp hc).1
  · rintro rfl
    rfl

end Table

end Tabular
