import Mathlib.Data.List.Induction
import Mathlib.Data.Nat.Count
import Mathlib.Tactic.Lemma
import Tabular.Filter.Columns

/-!
# Places after columns are removed

A cell that stays moves to the left by the count of the removed columns before it. This is the same for
all rows, however long they are, so what stood in one column still does. Columns that are removed one
after the other can be removed at once, if those of the second removal are looked up where the first one
has put them.

* `placeAfter`: the new place of a column.
* `getElem?_keptCells_eq_some_iff`: which cells are left of a row, and where.
* `removeColumns_removeColumns`: one removal after the other.
-/

namespace Tabular

variable {drops drops' : Nat → Bool} {row : Row} {t : Table} {p q : Nat} {cell : Cell}

/-- The cells of a row that do not stand in removed columns. -/
def keptCells (drops : Nat → Bool) (row : Row) : Row :=
  (row.zipIdx.filter fun (_, column) => !drops column).map Prod.fst

/-- Where a removal puts a column that stays. -/
def placeAfter (drops : Nat → Bool) (p : Nat) : Nat :=
  p - Nat.count (fun column => drops column = true) p

/-- A place moves on by one for each place before it that is kept. -/
lemma placeAfter_succ (drops : Nat → Bool) (p : Nat) :
    placeAfter drops (p + 1) = if drops p = true then placeAfter drops p else placeAfter drops p + 1 := by
  have hle : Nat.count (fun column => drops column = true) p ≤ p := Nat.count_le _
  rw [placeAfter, placeAfter, Nat.count_succ]
  split <;> omega

/-- The place of a column is the count of the columns before it that stay. -/
lemma placeAfter_eq_count (drops : Nat → Bool) (p : Nat) :
    placeAfter drops p = Nat.count (fun column => drops column = false) p := by
  induction p with
  | zero => rfl
  | succ p ih =>
    rw [placeAfter_succ, Nat.count_succ, ih]
    cases drops p with
    | true => rfl
    | false => rfl

/-- No two columns that stay get the same place. -/
lemma placeAfter_inj (hp : drops p = false) (hq : drops q = false)
    (h : placeAfter drops p = placeAfter drops q) : p = q := by
  rw [placeAfter_eq_count, placeAfter_eq_count] at h
  exact Nat.count_injective hp hq h

/-- One more cell is kept at the end, or dropped. -/
lemma keptCells_concat (drops : Nat → Bool) (row : Row) (cell : Cell) :
    keptCells drops (row ++ [cell]) =
      if drops row.length = true then keptCells drops row else keptCells drops row ++ [cell] := by
  unfold keptCells
  rw [List.zipIdx_append, List.filter_append, List.map_append]
  cases h : drops row.length with
  | true => simp [h]
  | false => simp [h]

/-- As many cells are left as there are kept places. -/
lemma length_keptCells (drops : Nat → Bool) (row : Row) :
    (keptCells drops row).length = placeAfter drops row.length := by
  induction row using List.reverseRecOn with
  | nil => rfl
  | append_singleton row cell ih =>
    rw [keptCells_concat, List.length_append, List.length_singleton, placeAfter_succ, ← ih]
    split
    · rfl
    · rw [List.length_append, List.length_singleton]

/-- With one more element at the end, elements are found where they were, or there. -/
lemma getElem?_concat_eq_some_iff {α : Type} {l : List α} {a b : α} {i : Nat} :
    (l ++ [a])[i]? = some b ↔ l[i]? = some b ∨ i = l.length ∧ a = b := by
  rw [List.getElem?_append]
  split
  · rename_i h
    have hne : i ≠ l.length := Nat.ne_of_lt h
    simp [hne]
  · rename_i h
    have hnone : l[i]? = none := List.getElem?_eq_none (Nat.le_of_not_lt h)
    rw [hnone, List.getElem?_singleton]
    have hlen : i - l.length = 0 ↔ i = l.length := by omega
    simp [hlen]

/-- The cells of a row after a removal are those that do not stand in removed columns, each at the new
place of its column. -/
lemma getElem?_keptCells_eq_some_iff :
    (keptCells drops row)[q]? = some cell ↔
      ∃ p, row[p]? = some cell ∧ drops p = false ∧ placeAfter drops p = q := by
  induction row using List.reverseRecOn with
  | nil => simp [keptCells]
  | append_singleton row last ih =>
    simp only [keptCells_concat, getElem?_concat_eq_some_iff]
    -- The last cell comes behind all others if it stays.
    have hlast : (∃ p, (p = row.length ∧ last = cell) ∧ drops p = false ∧ placeAfter drops p = q) ↔
        last = cell ∧ drops row.length = false ∧ q = (keptCells drops row).length := by
      rw [length_keptCells]
      constructor
      · rintro ⟨p, ⟨rfl, e⟩, hp, hq⟩
        exact ⟨e, hp, hq.symm⟩
      · intro ⟨e, hp, hq⟩
        exact ⟨_, ⟨rfl, e⟩, hp, hq.symm⟩
    simp only [or_and_right, exists_or, hlast, ← ih]
    cases h : drops row.length with
    | true => simp
    | false =>
      simp only [Bool.false_eq_true, if_false, getElem?_concat_eq_some_iff, true_and]
      rw [and_comm]

/-- A kept cell is found at its new place. -/
lemma getElem?_keptCells_placeAfter (hp : drops p = false) (row : Row) :
    (keptCells drops row)[placeAfter drops p]? = row[p]? := by
  apply Option.ext
  intro cell
  rw [getElem?_keptCells_eq_some_iff]
  constructor
  · rintro ⟨p', hcell, hp', h⟩
    exact placeAfter_inj hp' hp h ▸ hcell
  · intro hcell
    exact ⟨p, hcell, hp, rfl⟩

/-- Two removals are one. -/
lemma keptCells_keptCells (drops drops' : Nat → Bool) (row : Row) :
    keptCells drops' (keptCells drops row) =
      keptCells (fun p => drops p || drops' (placeAfter drops p)) row := by
  induction row using List.reverseRecOn with
  | nil => rfl
  | append_singleton row cell ih =>
    rw [keptCells_concat drops, keptCells_concat (fun p => drops p || drops' (placeAfter drops p))]
    cases h : drops row.length with
    | true => simpa [h] using ih
    | false => simp [keptCells_concat, length_keptCells, ih]

/-- What is done to every cell of a row can be done before or after the removal. -/
lemma keptCells_map (f : Cell → Cell) (row : Row) : keptCells drops (row.map f) = (keptCells drops row).map f := by
  rw [keptCells, List.zipIdx_map, List.filter_map, List.map_map, keptCells, List.map_map]
  rfl

/-- What is dropped behind the end of a row does not matter to it. -/
lemma keptCells_congr (h : ∀ p < row.length, drops p = drops' p) : keptCells drops row = keptCells drops' row := by
  have hfilter : row.zipIdx.filter (fun (_, column) => !drops column) =
      row.zipIdx.filter fun (_, column) => !drops' column := by
    apply List.filter_congr
    intro (cell, p) hmem
    have hp : p < row.length := by
      have := List.snd_lt_of_mem_zipIdx hmem
      omega
    exact congrArg (! ·) (h p hp)
  rw [keptCells, hfilter, keptCells]

namespace Table

/-- Columns are removed row by row. -/
lemma removeColumns_eq_map (drops : Nat → Bool) (t : Table) : t.removeColumns drops = t.map (keptCells drops) :=
  rfl

/-- A row of the table that is left is what is left of the row. -/
lemma getElem?_removeColumns (drops : Nat → Bool) (t : Table) (i : Nat) :
    (t.removeColumns drops)[i]? = t[i]?.map (keptCells drops) :=
  List.getElem?_map

/-- Two removals are one of what either drops, the second asked at the new places. -/
lemma removeColumns_removeColumns (drops drops' : Nat → Bool) (t : Table) :
    (t.removeColumns drops).removeColumns drops' =
      t.removeColumns fun p => drops p || drops' (placeAfter drops p) := by
  simp only [removeColumns_eq_map, List.map_map]
  apply List.map_congr_left
  intro row _
  exact keptCells_keptCells drops drops' row

/-- What is dropped behind the end of all rows does not matter. -/
lemma removeColumns_congr (h : ∀ row ∈ t, ∀ p < row.length, drops p = drops' p) :
    t.removeColumns drops = t.removeColumns drops' := by
  apply List.map_congr_left
  intro row hrow
  exact keptCells_congr (h row hrow)

/-- A column that has a cell in some row is within the width, also after others are removed. -/
lemma placeAfter_lt_width_removeColumns (hrow : row ∈ t) (hp : p < row.length) (hkeep : drops p = false) :
    placeAfter drops p < (t.removeColumns drops).width := by
  have hcell := getElem?_keptCells_placeAfter hkeep row
  rw [List.getElem?_eq_getElem hp] at hcell
  have hlt := (List.getElem?_eq_some_iff.mp hcell).1
  have hle : (keptCells drops row).length ≤ (t.removeColumns drops).width :=
    length_le_width (List.mem_map_of_mem hrow)
  omega

end Table

end Tabular
