import Mathlib.Data.List.Forall2
import Tabular.Proofs.Filter.Columns
import Tabular.Proofs.Table.Removal

/-!
# Which columns go, and where the others are then

Columns go for one of three reasons: the position rules of the list apply to them together, they hold the
value of a value rule, or they meet a group. Every other cell of a row moves by the count of dropped
columns before it. Since rows that are too short for a column lose nothing by it, the moves are the same
for rows of all lengths.

* `Aligned`: a row and what is left of it.
* `mem_selectedColumns_iff_and_aligned`: which columns go, and where the other cells are.
-/

namespace Tabular

/-- A row after a removal holds the cells of the columns that stay, each at the new place of its column,
and nothing else. -/
def Aligned (drops : Nat → Bool) (row row' : Row) : Prop :=
  ∀ q cell, row'[q]? = some cell ↔
    ∃ p, row[p]? = some cell ∧ drops p = false ∧ placeAfter drops p = q

/-- Each row is aligned with what is left of it. -/
lemma aligned_removeColumns (drops : Nat → Bool) (t : Table) :
    List.Forall₂ (Aligned drops) t (t.removeColumns drops) := by
  rw [Table.removeColumns_eq_map, List.forall₂_map_right_iff, List.forall₂_same]
  intro row _ q cell
  exact getElem?_keptCells_eq_some_iff

namespace FilterRule

/-- A rule that a column meets is a value rule or a group. -/
lemma exists_metByColumn_iff {t : Table} {rules : List FilterRule} {column : Nat} :
    (∃ rule ∈ rules, MetByColumn t column rule) ↔
      (∃ selector val, .value selector val ∈ rules ∧ ColumnHoldsAt t selector val column) ∨
        ∃ group, .all group ∈ rules ∧ MetByColumn t column (.all group) := by
  constructor
  · intro ⟨rule, hrule, met⟩
    cases rule with
    | position index => cases met
    | value selector val => exact .inl ⟨selector, val, hrule, metByColumn_value_iff.mp met⟩
    | all group => exact .inr ⟨group, hrule, met⟩
  · intro h
    cases h with
    | inl h =>
      obtain ⟨selector, val, hrule, holds⟩ := h
      exact ⟨.value selector val, hrule, .value holds⟩
    | inr h =>
      obtain ⟨group, hrule, met⟩ := h
      exact ⟨.all group, hrule, met⟩

end FilterRule

/-- The columns that are dropped are those of the table to which the position rules apply together, or
that hold the value of a value rule, or that meet a group. Every row is left with its other cells, each
moved to the left by the count of dropped columns before it. -/
theorem mem_selectedColumns_iff_and_aligned (t : Table) (rules : List FilterRule) :
    (∀ column, column ∈ t.selectedColumns rules ↔
      column < t.width ∧
        (JointlyApply (positionRules rules) column ∨
          (∃ selector val, .value selector val ∈ rules ∧ ColumnHoldsAt t selector val column) ∨
          ∃ group, .all group ∈ rules ∧ FilterRule.MetByColumn t column (.all group))) ∧
    List.Forall₂ (Aligned (t.selectedColumns rules).contains) t (t.ignoreColumns rules) := by
  constructor
  · intro column
    rw [FilterRule.mem_selectedColumns_iff, FilterRule.exists_metByColumn_iff]
  · exact aligned_removeColumns _ t

/-- Columns dropped for three reasons from rows of different lengths: the second by its position, the
fourth by a value in the last row, the fifth by a group. -/
example : Table.ignoreColumns
      [.position (.int 1), .value (.only [.int 2]) (.text "x"), .all [.value .any .null, .position (.text ">3")]]
      [[.int 0, .int 1, .int 2, .int 3, .null, .int 5], [.null, .null], [.int 0, .int 1, .int 2, .text "x"]] =
    [[.int 0, .int 2, .int 5], [.null], [.int 0, .int 2]] :=
  rfl

end Tabular
