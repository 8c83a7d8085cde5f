import Tabular.Proofs.Filter.Columns
import Tabular.Proofs.Table.Transpose

/-!
# Filters and the exchange of rows and columns

Leaving out columns of a rectangular table is leaving out rows of the exchanged one, as long as no group
puts position rules together with other rules. In such a group the position rules decide alone for a
row, but not for a column, so that less columns go than rows.

* `Unmixed`: no group puts position rules together with others.
* `MetByColumn.metByRow`, `MetByRow.metByColumn`: rules met by a column and by the row that it becomes.
* `dropsColumn_iff_removesRow_transpose`: the two filters across the exchange.
-/

namespace Tabular

/-- Rules drop a column of a table. -/
def Table.DropsColumn (t : Table) (rules : List FilterRule) (column : Nat) : Prop :=
  column < t.width ∧ column ∈ t.selectedColumns rules

/-- Rules remove the row of a table at an index. -/
def Table.RemovesRow (t : Table) (rules : List FilterRule) (i : Nat) : Prop :=
  ∃ row, t[i]? = some row ∧ FilterRule.keepsAsList row i rules = false

namespace FilterRule

/-- No group, at any depth, puts position rules together with other rules. -/
inductive Unmixed : FilterRule → Prop where
  | position index : Unmixed (position index)
  | value selector val : Unmixed (value selector val)
  | positions {rules} : (∀ rule ∈ rules, ∃ index, rule = position index) → Unmixed (all rules)
  | others {rules} : (∀ rule ∈ rules, ∀ index, rule ≠ position index) →
    (∀ rule ∈ rules, Unmixed rule) → Unmixed (all rules)

section

variable {t : Table} {c : Nat}

/-- A column of a rectangular table holds a value in a selected row if the row that it becomes holds it
at a selected position. -/
lemma columnHoldsAt_iff_holdsAt_column (h : ∀ row ∈ t, c < row.length) {selector : Selector}
    {val : Cell} : ColumnHoldsAt t selector val c ↔ HoldsAt selector val (t.column c) := by
  simp only [ColumnHoldsAt, HoldsAt, Table.getElem?_column h, Option.bind_eq_some_iff]
  constructor
  · rintro ⟨p, row, cell, e, hp, hc, he⟩
    exact ⟨p, cell, ⟨row, e, hc⟩, hp, he⟩
  · rintro ⟨p, cell, ⟨row, e, hc⟩, hp, he⟩
    exact ⟨p, row, cell, e, hp, hc, he⟩

/-- A rule that a column meets is met by the row that the column becomes. -/
lemma MetByColumn.metByRow (h : ∀ row ∈ t, c < row.length) {rule : FilterRule}
    (met : MetByColumn t c rule) : MetByRow (t.column c) c rule := by
  induction rule using FilterRule.inductionOn with
  | position index => cases met
  | value selector val =>
    cases met with
    | value hv => exact .value ((columnHoldsAt_iff_holdsAt_column h).mp hv)
  | all rules ih =>
    cases met with
    | all hp hv hg =>
      by_cases hnil : positionRules rules = []
      · refine .members hnil fun rule hr => ?_
        cases rule with
        | position index => exact absurd rfl (positionRules_eq_nil_iff.mp hnil _ hr index)
        | value selector val => exact ih _ hr (hv selector val hr)
        | all group => exact ih _ hr (hg group hr)
      · exact .positions hnil (hp hnil)

/-- A rule whose groups are not mixed is met by a column if the row that it becomes meets it. -/
lemma MetByRow.metByColumn (h : ∀ row ∈ t, c < row.length) {rule : FilterRule}
    (unmixed : rule.Unmixed) (met : MetByRow (t.column c) c rule) : MetByColumn t c rule := by
  induction rule using FilterRule.inductionOn with
  | position index => cases met
  | value selector val =>
    cases met with
    | value hv => exact .value ((columnHoldsAt_iff_holdsAt_column h).mpr hv)
  | all rules ih =>
    cases met with
    -- Position rules decide alone for the row, but for the column only if there are no other members.
    | positions hne ha =>
      cases unmixed with
      | positions hall =>
        refine .all (fun _ => ha) (fun selector val hr => ?_) (fun group hr => ?_)
        · obtain ⟨index, e⟩ := hall _ hr
          cases e
        · obtain ⟨index, e⟩ := hall _ hr
          cases e
      | others hnone => exact absurd (positionRules_eq_nil_iff.mpr hnone) hne
    | members hnil hall =>
      have members : ∀ rule ∈ rules, rule.Unmixed := by
        intro rule hr
        cases unmixed with
        | positions hpos =>
          obtain ⟨index, rfl⟩ := hpos rule hr
          exact .position index
        | others _ hu => exact hu rule hr
      exact .all (absurd hnil)
        (fun selector val hr => ih _ hr (members _ hr) (hall _ hr))
        (fun group hr => ih _ hr (members _ hr) (hall _ hr))

/-- A dropped column of a rectangular table is a removed row of the exchanged one. -/
lemma removesRow_of_dropsColumn (ht : t.Rectangular) {rules : List FilterRule}
    (drops : t.DropsColumn rules c) : t.transpose.RemovesRow rules c := by
  obtain ⟨hc, hm⟩ := drops
  have h : ∀ row ∈ t, c < row.length := fun row hrow => (ht row hrow).symm ▸ hc
  refine ⟨t.column c, by rw [Table.getElem?_transpose, if_pos hc], ?_⟩
  rw [← Bool.not_eq_true, keepsAsList_iff, not_not]
  obtain ⟨-, ha | ⟨rule, hr, met⟩⟩ := mem_selectedColumns_iff.mp hm
  · exact .inl ha
  · exact .inr ⟨rule, hr, met.metByRow h⟩

/-- Without mixed groups a removed row of the exchanged table is a dropped column. -/
lemma dropsColumn_of_removesRow (ht : t.Rectangular) {rules : List FilterRule}
    (unmixed : ∀ rule ∈ rules, rule.Unmixed) (removes : t.transpose.RemovesRow rules c) :
    t.DropsColumn rules c := by
  obtain ⟨row, e, hk⟩ := removes
  rw [Table.getElem?_transpose] at e
  split at e
  · rename_i hc
    cases e
    have h : ∀ row ∈ t, c < row.length := fun row hrow => (ht row hrow).symm ▸ hc
    rw [← Bool.not_eq_true, keepsAsList_iff, not_not] at hk
    refine ⟨hc, mem_selectedColumns_iff.mpr ⟨hc, ?_⟩⟩
    obtain ha | ⟨rule, hr, met⟩ := hk
    · exact .inl ha
    · exact .inr ⟨rule, hr, met.metByColumn h (unmixed rule hr)⟩
  · cases e

end

end FilterRule

/-- What is left of an exchanged table are the columns that are kept as rows. -/
lemma Table.transpose_ignoreRows (t : Table) (rules : List FilterRule) :
    t.transpose.ignoreRows rules =
      ((List.range t.width).filter fun c => FilterRule.keepsAsList (t.column c) c rules).map
        t.column := by
  rw [ignoreRows, transpose, zipIdx_map_range, List.filter_map, List.map_map]
  rfl

/-- Columns that rules drop from a rectangular table are rows that they remove from the exchanged one.
If no group is mixed, the converse holds too, and the two filters leave the same table. -/
theorem dropsColumn_iff_removesRow_transpose (t : Table) (ht : t.Rectangular)
    (rules : List FilterRule) :
    (∀ c, t.DropsColumn rules c → t.transpose.RemovesRow rules c) ∧
      ((∀ rule ∈ rules, rule.Unmixed) →
        (∀ c, t.DropsColumn rules c ↔ t.transpose.RemovesRow rules c) ∧
          (t.ignoreColumns rules).transpose = t.transpose.ignoreRows rules) := by
  refine ⟨fun c => FilterRule.removesRow_of_dropsColumn ht, fun unmixed => ?_⟩
  have same : ∀ c, t.DropsColumn rules c ↔ t.transpose.RemovesRow rules c := fun c =>
    ⟨FilterRule.removesRow_of_dropsColumn ht, FilterRule.dropsColumn_of_removesRow ht unmixed⟩
  refine ⟨same, ?_⟩
  rw [Table.ignoreColumns, Table.transpose_removeColumns ht, Table.transpose_ignoreRows]
  refine congrArg _ (List.filter_congr fun c hc => ?_)
  have hc : c < t.width := List.mem_range.mp hc
  have removes : t.transpose.RemovesRow rules c ↔
      FilterRule.keepsAsList (t.column c) c rules = false := by
    simp [Table.RemovesRow, Table.getElem?_transpose, hc]
  have drops : t.DropsColumn rules c ↔ (t.selectedColumns rules).contains c = true := by
    simp [Table.DropsColumn, hc]
  rw [Bool.eq_iff_iff, Bool.not_eq_true', ← Bool.not_eq_true, ← drops, same c, removes,
    Bool.not_eq_false]

/-- A column goes if it holds a value in the first row and stands behind the first column: the second of two
columns that hold the value, by a group with a group of position rules in it. -/
theorem dropsColumn_iff_removesRow_transpose_nested_group :
    Table.Rectangular [[.text "x", .text "x", .int 1], [.int 2, .int 3, .int 4]] ∧
      (∀ rule ∈ [FilterRule.all [.value (.only [.int 0]) (.text "x"), .all [.position (.int 1)]]],
        rule.Unmixed) ∧
      Table.RemovesRow (Table.transpose [[.text "x", .text "x", .int 1], [.int 2, .int 3, .int 4]])
        [.all [.value (.only [.int 0]) (.text "x"), .all [.position (.int 1)]]] 1 ∧
      ¬ Table.RemovesRow (Table.transpose [[.text "x", .text "x", .int 1], [.int 2, .int 3, .int 4]])
        [.all [.value (.only [.int 0]) (.text "x"), .all [.position (.int 1)]]] 0 ∧
      (Table.transpose [[.text "x", .text "x", .int 1], [.int 2, .int 3, .int 4]]).ignoreRows
        [.all [.value (.only [.int 0]) (.text "x"), .all [.position (.int 1)]]] =
          [[.text "x", .int 2], [.int 1, .int 4]] := by
  have ht : Table.Rectangular [[.text "x", .text "x", .int 1], [.int 2, .int 3, .int 4]] := by
    unfold Table.Rectangular
    decide
  have inner : (FilterRule.all [.position (.int 1)]).Unmixed :=
    .positions (List.forall_mem_singleton.mpr ⟨.int 1, rfl⟩)
  have outer : (FilterRule.all [.value (.only [.int 0]) (.text "x"), .all [.position (.int 1)]]).Unmixed :=
    .others (by simp) (List.forall_mem_cons.mpr ⟨.value _ _, List.forall_mem_singleton.mpr inner⟩)
  have h := dropsColumn_iff_removesRow_transpose _ ht
    [.all [.value (.only [.int 0]) (.text "x"), .all [.position (.int 1)]]]
  obtain ⟨same, leaves⟩ := h.2 (List.forall_mem_singleton.mpr outer)
  refine ⟨ht, List.forall_mem_singleton.mpr outer, h.1 1 ?_, fun removed => ?_, ?_⟩
  · unfold Table.DropsColumn
    decide
  · have drops := (same 0).mpr removed
    unfold Table.DropsColumn at drops
    revert drops
    decide
  · rw [← leaves]
    rfl

end Tabular
