import Mathlib.Data.List.Permutation
import Tabular.Proofs.Operation.Interpretation
import Tabular.Proofs.Table.Transpose

/-!
# Exchanging rows and columns twice

The cells of a column move up past the rows that are too short to have one in it. So cells keep to their
places, rows and columns exchanged, only if no row is longer than one above it. The exchanged table is always
of this kind, and none of its rows is empty. Such tables, and no others, are those that exchanging twice gives
back.

* `Stepped`: no row is empty, and none is longer than one above it.
* `gather?_eq`: the loop that hands out cells never lacks a column.
* `stepped_transpose`: what it makes is stepped.
* `gather?_eq_and_transpose_transpose_eq_iff`: cells are kept, and which tables come back.
-/

namespace Tabular.Table

variable {t u : Table} {row : Row} {i n r c : Nat}

/-- No row is longer than one above it. -/
def Descending (t : Table) : Prop :=
  t.Pairwise fun above below => below.length ≤ above.length

/-- No row is empty, and none is longer than one above it. -/
structure Stepped (t : Table) : Prop where
  descending : t.Descending
  ne_nil : ∀ row ∈ t, row ≠ []

/-- The rows of a rectangular table do not get longer. -/
lemma Rectangular.descending (h : t.Rectangular) : t.Descending := by
  apply List.pairwise_iff_forall_sublist.mpr
  intro above below hsub
  rw [h above (hsub.subset List.mem_cons_self), h below (hsub.subset (List.mem_cons_of_mem _ List.mem_cons_self))]

/-- A rectangular table with columns is stepped. -/
lemma Rectangular.stepped (h : t.Rectangular) (hwidth : 0 < t.width) : t.Stepped := by
  refine ⟨h.descending, ?_⟩
  rintro row hrow rfl
  rw [← h [] hrow] at hwidth
  exact absurd hwidth (Nat.lt_irrefl 0)

/-! ## Cells handed out one by one -/

/-- The table with a cell added to the end of the row at an index, if it has that row. -/
def addAt? (t : Table) (index : Nat) (c : Cell) : Option Table :=
  t[index]?.map fun row => t.set index (row ++ [c])

/-- Each cell of a row is added to the column in which it stands. -/
def addRow? (columns : Table) (row : Row) : Option Table :=
  row.zipIdx.foldlM (fun columns (c, index) => columns.addAt? index c) columns

/-- The columns as rows, to which the cells of a table are added row by row. -/
def gather? (t : Table) : Option Table :=
  t.foldlM addRow? (List.replicate t.width [])

/-- A column begins with the cell of the first row, if that has one. -/
lemma column_cons (row : Row) (t : Table) (c : Nat) : column (row :: t) c = row[c]?.toList ++ t.column c := by
  rw [column, List.filterMap_cons]
  cases row[c]? <;> rfl

/-- A column of two tables one above the other is made of both columns. -/
lemma column_append (t u : Table) (c : Nat) : column (t ++ u) c = t.column c ++ u.column c :=
  List.filterMap_append

/-- A cell is added to the one column that it belongs to. -/
lemma addAt?_map_range (f : Nat → Row) (cell : Cell) (h : i < n) :
    addAt? ((List.range n).map f) i cell =
      some ((List.range n).map fun c => if c = i then f c ++ [cell] else f c) := by
  have hrow : ((List.range n).map f)[i]? = some (f i) := by simp [h]
  rw [addAt?, hrow, Option.map_some]
  refine congrArg some (List.ext_getElem (by simp) fun c hc hc' => ?_)
  rw [List.getElem_set, List.getElem_map, List.getElem_map, List.getElem_range]
  by_cases hci : i = c
  · rw [if_pos hci, if_pos hci.symm, hci]
  · rw [if_neg hci, if_neg (Ne.symm hci)]

/-- A row finds a column for each of its cells if there are enough of them. -/
lemma addRow?_map_range (f : Nat → Row) (h : row.length ≤ n) :
    addRow? ((List.range n).map f) row = some ((List.range n).map fun c => f c ++ row[c]?.toList) := by
  induction row using List.reverseRecOn with
  | nil => simp [addRow?]
  | append_singleton row cell ih =>
    rw [List.length_append, List.length_singleton] at h
    have hrow := ih (by omega)
    rw [addRow?] at hrow
    rw [addRow?, List.zipIdx_append, List.foldlM_append, hrow, Nat.zero_add]
    show (addAt? _ row.length cell >>= some) = _
    rw [addAt?_map_range _ _ h]
    refine congrArg some (List.map_congr_left fun c _ => ?_)
    rcases Nat.lt_trichotomy c row.length with hlt | rfl | hgt
    · rw [if_neg (Nat.ne_of_lt hlt), List.getElem?_append_left hlt]
    · simp
    · rw [if_neg (Nat.ne_of_gt hgt), List.getElem?_eq_none hgt.le, List.getElem?_eq_none]
      rw [List.length_append, List.length_singleton]
      exact hgt

/-- The loop adds to the columns of the rows before what the rows behind have for them. -/
lemma foldlM_addRow? (t u : Table) (h : ∀ row ∈ u, row.length ≤ n) :
    u.foldlM addRow? ((List.range n).map t.column) = some ((List.range n).map (column (t ++ u))) := by
  induction u generalizing t with
  | nil => simp
  | cons row u ih =>
    obtain ⟨hrow, hu⟩ := List.forall_mem_cons.mp h
    have hcolumn : (fun c => t.column c ++ row[c]?.toList) = column (t ++ [row]) := by
      funext c
      rw [column_append, column_cons]
      exact congrArg _ (List.append_nil _).symm
    rw [List.foldlM_cons, addRow?_map_range _ hrow, hcolumn]
    show u.foldlM addRow? ((List.range n).map (column (t ++ [row]))) = _
    rw [ih (t ++ [row]) hu, List.append_assoc]
    rfl

/-- Every cell finds its column, and the columns are complete in the end. -/
lemma gather?_eq (t : Table) : t.gather? = some t.transpose := by
  have hempty : List.replicate t.width ([] : Row) = (List.range t.width).map (column []) := by
    rw [← List.length_range (n := t.width), ← List.map_const, List.length_range]
    rfl
  rw [gather?, hempty, foldlM_addRow? [] t fun _ => length_le_width]
  rfl

/-- A row is made of its cells, place by place. -/
lemma filterMap_getElem?_range (row : Row) (h : row.length ≤ n) :
    (List.range n).filterMap (row[·]?) = row := by
  induction row generalizing n with
  | nil => simp
  | cons cell row ih =>
    obtain ⟨m, rfl⟩ := Nat.exists_eq_add_of_le' (Nat.le_trans (Nat.le_add_left 1 _) h)
    rw [List.range_succ_eq_map, List.filterMap_cons, List.filterMap_map]
    exact congrArg (cell :: ·) (ih (Nat.le_of_succ_le_succ h))

/-- The columns hold all cells of a table, in another order. -/
lemma flatMap_column_perm (h : ∀ row ∈ t, row.length ≤ n) :
    ((List.range n).flatMap t.column).Perm t.flatten := by
  induction t with
  | nil => simp [column]
  | cons row t ih =>
    obtain ⟨hrow, ht⟩ := List.forall_mem_cons.mp h
    have hcells : (List.range n).flatMap (fun c => row[c]?.toList) = row := by
      rw [← List.filterMap_eq_flatMap_toList, filterMap_getElem?_range row hrow]
    have hsplit : ((List.range n).flatMap (column (row :: t))).Perm
        ((List.range n).flatMap (fun c => row[c]?.toList) ++ (List.range n).flatMap (column t)) := by
      rw [funext (column_cons row t)]
      exact (List.flatMap_append_perm _ _ _).symm
    rw [hcells] at hsplit
    exact hsplit.trans ((ih ht).append_left row)

/-- Each cell comes to stand in one place, and nothing else does. -/
lemma flatten_transpose_perm (t : Table) : t.transpose.flatten.Perm t.flatten :=
  flatMap_column_perm fun _ => length_le_width

/-! ## Places -/

/-- A column has a cell of each row that is long enough. -/
lemma length_column (t : Table) (c : Nat) : (t.column c).length = t.countP fun row => c < row.length := by
  induction t with
  | nil => rfl
  | cons row t ih =>
    rw [column_cons, List.length_append, ih, List.countP_cons, Nat.add_comm]
    by_cases h : c < row.length <;> simp [h]

/-- A column within the width of a table is not empty. -/
lemma column_ne_nil (h : c < t.width) : t.column c ≠ [] := by
  have hne : t ≠ [] := by
    rintro rfl
    cases h
  obtain ⟨row, hrow, hlength⟩ := exists_length_eq_width hne
  rw [← List.length_pos_iff, length_column, List.countP_pos_iff]
  exact ⟨row, hrow, by simpa [hlength] using h⟩

/-- Columns get shorter to the right, and none within the width is empty. -/
lemma stepped_transpose (t : Table) : t.transpose.Stepped := by
  constructor
  · refine List.pairwise_map.mpr (List.pairwise_lt_range.imp fun {c c'} h => ?_)
    rw [length_column, length_column]
    apply List.countP_mono_left
    intro row _ hc
    exact decide_eq_true (h.trans (of_decide_eq_true hc))
  · intro row hrow
    obtain ⟨c, hc, rfl⟩ := List.mem_map.mp hrow
    exact column_ne_nil (List.mem_range.mp hc)

/-- If rows do not get longer, the cells of a column keep their rows. -/
lemma Descending.getElem?_column (h : t.Descending) : (t.column c)[r]? = t.cell? r c := by
  induction t generalizing r with
  | nil => rfl
  | cons row t ih =>
    obtain ⟨hrow, ht⟩ := List.pairwise_cons.mp h
    rw [column_cons]
    by_cases hc : c < row.length
    · rw [List.getElem?_eq_getElem hc]
      cases r with
      | zero => exact (List.getElem?_eq_getElem hc).symm
      | succ r => exact ih ht
    -- A row that ends before the column has only such rows below it.
    · have hbelow : column t c = [] := by
        apply List.filterMap_eq_nil_iff.mpr
        intro row' hrow'
        exact List.getElem?_eq_none ((hrow row' hrow').trans (Nat.le_of_not_lt hc))
      rw [List.getElem?_eq_none (Nat.le_of_not_lt hc), hbelow]
      cases r with
      | zero => exact (List.getElem?_eq_none (Nat.le_of_not_lt hc)).symm
      | succ r =>
        rw [cell?, List.getElem?_cons_succ]
        have hcell := ih ht (r := r)
        rw [hbelow, cell?] at hcell
        exact hcell

/-- If no row is longer than one above it, all cells keep their places, rows and columns exchanged. -/
lemma Descending.cell?_transpose (h : t.Descending) (r c : Nat) : t.transpose.cell? c r = t.cell? r c := by
  rw [cell?, getElem?_transpose]
  split
  · exact h.getElem?_column
  · rename_i hc
    cases hcell : t.cell? r c with
    | none => rfl
    | some cell =>
      obtain ⟨row, hrow, hcell⟩ := cell?_eq_some_iff.mp hcell
      have hlt := (List.getElem?_eq_some_iff.mp hcell).1
      exact absurd (hlt.trans_le (length_le_width (List.mem_of_getElem? hrow))) hc

/-- A table without empty rows has the rows of each table with the same cells. -/
lemma getElem?_eq_some_of_cell? (ht : ∀ row ∈ t, row ≠ []) (h : ∀ r c, t.cell? r c = u.cell? r c)
    (hrow : t[r]? = some row) : u[r]? = some row := by
  have hcell : ∀ c, u.cell? r c = row[c]? := fun c => by rw [← h, cell?, hrow, Option.bind_some]
  cases hu : u[r]? with
  | none =>
    -- Without a row there is no first cell.
    have hfirst := hcell 0
    rw [cell?, hu, Option.bind_none, eq_comm, List.getElem?_eq_none_iff] at hfirst
    exact absurd (List.length_eq_zero_iff.mp (Nat.le_zero.mp hfirst)) (ht row (List.mem_of_getElem? hrow))
  | some row' =>
    refine congrArg some (List.ext_getElem? fun c => ?_)
    rw [← hcell, cell?, hu, Option.bind_some]

/-- Tables without empty rows are equal if they have the same cells at all places. -/
lemma eq_of_cell? (ht : ∀ row ∈ t, row ≠ []) (hu : ∀ row ∈ u, row ≠ []) (h : ∀ r c, t.cell? r c = u.cell? r c) :
    t = u := by
  refine List.ext_getElem? fun r => Option.ext fun row => ⟨?_, ?_⟩
  · exact getElem?_eq_some_of_cell? ht h
  · exact getElem?_eq_some_of_cell? hu fun r c => (h r c).symm

/-- A stepped table is given back by exchanging twice. -/
lemma Stepped.transpose_transpose (h : t.Stepped) : t.transpose.transpose = t := by
  apply eq_of_cell? t.transpose.stepped_transpose.ne_nil h.ne_nil
  intro r c
  rw [t.stepped_transpose.descending.cell?_transpose, h.descending.cell?_transpose]

/-- Handing out the cells one by one never lacks a column, and makes the columns into rows that have all cells
once, that are not empty and that get no longer downwards. Exchanging twice gives back exactly the tables with
such rows, among them all with equally long rows that are not empty, and exchanging three times is exchanging
once. -/
theorem gather?_eq_and_transpose_transpose_eq_iff (t : Table) :
    t.gather? = some t.transpose ∧
    t.transpose.flatten.Perm t.flatten ∧
    ((∀ row ∈ t.transpose, row ≠ []) ∧
      t.transpose.Pairwise fun above below => below.length ≤ above.length) ∧
    (t.transpose.transpose = t ↔
      (∀ row ∈ t, row ≠ []) ∧ t.Pairwise fun above below => below.length ≤ above.length) ∧
    (t.Rectangular → 0 < t.width → t.transpose.transpose = t) ∧
    t.transpose.transpose.transpose = t.transpose := by
  have hstepped := t.stepped_transpose
  refine ⟨t.gather?_eq, t.flatten_transpose_perm, ⟨hstepped.ne_nil, hstepped.descending⟩, ⟨?_, ?_⟩, ?_, ?_⟩
  · intro h
    have htwice := t.transpose.stepped_transpose
    rw [h] at htwice
    exact ⟨htwice.ne_nil, htwice.descending⟩
  · rintro ⟨hne, hdescending⟩
    exact Stepped.transpose_transpose ⟨hdescending, hne⟩
  · intro h hwidth
    exact (h.stepped hwidth).transpose_transpose
  · exact hstepped.transpose_transpose

/-- Three rows of two cells each. -/
theorem gather?_eq_and_transpose_transpose_eq_iff_three_rows :
    Rectangular [[.int 1, .int 2], [.int 3, .int 4], [.int 5, .int 6]] ∧
    0 < width [[.int 1, .int 2], [.int 3, .int 4], [.int 5, .int 6]] ∧
    gather? [[.int 1, .int 2], [.int 3, .int 4], [.int 5, .int 6]] =
      some [[.int 1, .int 3, .int 5], [.int 2, .int 4, .int 6]] ∧
    transpose [[.int 1, .int 3, .int 5], [.int 2, .int 4, .int 6]] =
      [[.int 1, .int 2], [.int 3, .int 4], [.int 5, .int 6]] := by
  have h := gather?_eq_and_transpose_transpose_eq_iff [[.int 1, .int 2], [.int 3, .int 4], [.int 5, .int 6]]
  have hrectangular : Rectangular [[.int 1, .int 2], [.int 3, .int 4], [.int 5, .int 6]] := by
    unfold Rectangular
    decide
  have hwidth : 0 < width [[.int 1, .int 2], [.int 3, .int 4], [.int 5, .int 6]] := by decide
  exact ⟨hrectangular, hwidth, h.1, h.2.2.2.2.1 hrectangular hwidth⟩

/-- A cell below a row that is too short moves up for good. -/
example : transpose (transpose [[.int 1], [.int 2, .int 3]]) = [[.int 1, .int 3], [.int 2]] := rfl

end Tabular.Table
