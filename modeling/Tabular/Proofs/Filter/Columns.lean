import Tabular.Filter.Columns
import Tabular.Proofs.Filter.Rows

/-!
# What column rules leave out

The meaning of rules on a column, said without candidates and votes: a value rule is met by a value in
the column in a selected row, a group by its position rules, if it has any, together with all its other
members. The columns that are dropped (`mem_selectedColumns_iff`) are those of the table that meet a rule
or to which the position rules of the list apply.

* `ColumnHoldsAt`: a column holds a value in a selected row.
* `MetByColumn`: a column meets a rule.
* `mem_columnsByGroup_iff`, `mem_selectedColumns_iff`: the columns of a group and of a whole list.
-/

namespace Tabular

/-- A column has a cell that equals a value in a row that a selector includes. -/
def ColumnHoldsAt (t : Table) (selector : Selector) (val : Cell) (column : Nat) : Prop :=
  ∃ p row c, t[p]? = some row ∧ selector.Includes p ∧ row[column]? = some c ∧
    c.strictlyEqual val = true

/-- The search for a value in the selected rows of a column finds what is there. -/
lemma columnHolds_iff {t : Table} {selector : Selector} {val : Cell} {column : Nat} :
    columnHolds (selector.pick t) column val = true ↔ ColumnHoldsAt t selector val column := by
  simp only [columnHolds, List.any_eq_true, Selector.mem_pick_iff, Option.any_eq_true, ColumnHoldsAt]
  constructor
  · rintro ⟨row, ⟨p, e, hp⟩, c, hc, he⟩
    exact ⟨p, row, c, e, hp, hc, he⟩
  · rintro ⟨p, row, c, e, hp, hc, he⟩
    exact ⟨row, ⟨p, e, hp⟩, c, hc, he⟩

/-- A column that holds something is a column of the table. -/
lemma ColumnHoldsAt.lt_width {t : Table} {selector : Selector} {val : Cell} {column : Nat}
    (h : ColumnHoldsAt t selector val column) : column < t.width := by
  obtain ⟨p, row, c, e, -, hc, -⟩ := h
  have hrow := Table.length_le_width (List.mem_of_getElem? e)
  have hcol := (List.getElem?_eq_some_iff.mp hc).1
  omega

/-- The value rules of a list are its members of that kind. -/
lemma mem_valueRules_iff {rules : List FilterRule} {selector : Selector} {val : Cell} :
    (selector, val) ∈ valueRules rules ↔ .value selector val ∈ rules := by
  simp only [valueRules, List.mem_filterMap]
  constructor
  · rintro ⟨rule, hr, e⟩
    cases rule <;> cases e
    exact hr
  · intro h
    exact ⟨_, h, rfl⟩

/-- The groups of a list are its members of that kind. -/
lemma mem_groupRules_iff {rules group : List FilterRule} :
    group ∈ groupRules rules ↔ .all group ∈ rules := by
  simp only [groupRules, List.mem_filterMap]
  constructor
  · rintro ⟨rule, hr, e⟩
    cases rule <;> cases e
    exact hr
  · intro h
    exact ⟨_, h, rfl⟩

namespace FilterRule

/-- A column meets a value rule or a group. Position rules are not met one by one. -/
inductive MetByColumn (t : Table) (column : Nat) : FilterRule → Prop where
  | value {selector val} : ColumnHoldsAt t selector val column →
    MetByColumn t column (value selector val)
  | all {rules} : (positionRules rules ≠ [] → JointlyApply (positionRules rules) column) →
    (∀ selector val, .value selector val ∈ rules → MetByColumn t column (.value selector val)) →
    (∀ group, .all group ∈ rules → MetByColumn t column (.all group)) →
    MetByColumn t column (all rules)

/-- A column meets a value rule if it holds the value. -/
lemma metByColumn_value_iff {t : Table} {column : Nat} {selector : Selector} {val : Cell} :
    MetByColumn t column (value selector val) ↔ ColumnHoldsAt t selector val column :=
  ⟨fun | .value h => h, .value⟩

/-- The columns found by position are those to which the position rules apply. -/
lemma mem_columnsByPosition_iff {t : Table} {rules : List FilterRule} {column : Nat} :
    column ∈ t.columnsByPosition rules ↔
      column < t.width ∧ JointlyApply (positionRules rules) column := by
  simp only [Table.columnsByPosition, List.mem_filter, List.mem_range, excludes, leavesOut_iff]

/-- The candidates of a group are all columns, or those found by its position rules if it has any. -/
lemma mem_candidates_iff {t : Table} {rules : List FilterRule} {column : Nat} :
    column ∈ candidates t rules ↔
      column < t.width ∧ (positionRules rules ≠ [] → JointlyApply (positionRules rules) column) := by
  by_cases h : positionRules rules = []
  · simp [candidates, h]
  · simp [candidates, h, mem_columnsByPosition_iff]

/-- Columns are voted out if they meet all value rules of the group. -/
lemma votedOut_iff {t : Table} {rules : List FilterRule} {column : Nat} :
    votedOut t rules column = true ↔
      ∀ selector val, .value selector val ∈ rules → MetByColumn t column (.value selector val) := by
  have votes : votedOut t rules column = true ↔
      ∀ selector val, (selector, val) ∈ valueRules rules →
        columnHolds (selector.pick t) column val = true := by
    simp only [votedOut, Quorum.decide, Bool.or_eq_true, Bool.not_eq_true', List.contains_eq_mem,
      decide_eq_false_iff_not, List.isEmpty_iff, List.map_eq_nil_iff, List.mem_map, Prod.exists,
      not_exists, not_and]
    constructor
    · rintro (h | h) selector val hv
      · rw [h] at hv
        cases hv
      · cases e : columnHolds (selector.pick t) column val with
        | true => rfl
        | false => exact absurd e (h selector val hv)
    · intro h
      refine .inr fun selector val hv e => ?_
      rw [h selector val hv] at e
      cases e
  simp only [votes, mem_valueRules_iff, columnHolds_iff, metByColumn_value_iff]

/-- A member that is a group takes from the candidates what it does not find itself; others take nothing. -/
lemma mem_narrow_iff {t : Table} {columns : List Nat} {rule : FilterRule} {column : Nat} :
    column ∈ narrow t columns rule ↔
      column ∈ columns ∧ ∀ group, rule = all group → column ∈ t.columnsByGroup group := by
  cases rule with
  | position index => simp [narrow]
  | value selector val => simp [narrow]
  | all rules =>
    simp only [narrow, List.mem_filter, List.contains_eq_mem, decide_eq_true_eq, all.injEq,
      forall_eq', Table.columnsByGroup]

/-- The candidates that are left are found by all groups among the members. -/
lemma mem_narrowAll_iff {t : Table} {columns : List Nat} {rules : List FilterRule} {column : Nat} :
    column ∈ narrowAll t columns rules ↔
      column ∈ columns ∧ ∀ group, all group ∈ rules → column ∈ t.columnsByGroup group := by
  induction rules generalizing columns with
  | nil => simp [narrowAll]
  | cons rule rules ih =>
    rw [narrowAll, ih, mem_narrow_iff, and_assoc, and_congr_right_iff]
    intro _
    simp only [List.mem_cons, or_imp, forall_and, eq_comm]

/-- The columns found for a group are those that meet it. -/
lemma mem_columnsByGroup_iff {t : Table} {rules : List FilterRule} {column : Nat} :
    column ∈ t.columnsByGroup rules ↔ column < t.width ∧ MetByColumn t column (all rules) := by
  -- The induction is on rules, since it is rules that a group has as members.
  have groups : ∀ rule, ∀ rules, rule = all rules →
      (column ∈ t.columnsByGroup rules ↔ column < t.width ∧ MetByColumn t column (all rules)) := by
    intro rule
    induction rule using FilterRule.inductionOn with
    | position index => exact fun _ e => by cases e
    | value selector val => exact fun _ e => by cases e
    | all rules ih =>
      rintro _ ⟨⟩
      have nested : (∀ group, all group ∈ rules → column ∈ t.columnsByGroup group) ↔
          ∀ group, all group ∈ rules → column < t.width ∧ MetByColumn t column (all group) :=
        forall₂_congr fun group hg => ih (all group) hg group rfl
      rw [Table.columnsByGroup, List.mem_filter, mem_narrowAll_iff, mem_candidates_iff, votedOut_iff,
        nested]
      constructor
      · rintro ⟨⟨⟨hw, hp⟩, hg⟩, hv⟩
        exact ⟨hw, .all hp hv fun group h => (hg group h).2⟩
      · rintro ⟨hw, h⟩
        cases h with
        | all hp hv hg => exact ⟨⟨⟨hw, hp⟩, fun group h => ⟨hw, hg group h⟩⟩, hv⟩
  exact groups (all rules) rules rfl

/-- The columns found by value are those that hold the value of one of the rules. -/
lemma mem_columnsByValue_iff {t : Table} {rules : List FilterRule} {column : Nat} :
    column ∈ t.columnsByValue rules ↔
      ∃ selector val, .value selector val ∈ rules ∧ ColumnHoldsAt t selector val column := by
  simp only [Table.columnsByValue, List.mem_flatMap, List.mem_map, List.mem_filter, Prod.exists,
    mem_valueRules_iff, exists_eq_right, List.mem_zipIdx_iff_getElem?, Selector.mem_pick_iff,
    ColumnHoldsAt]
  constructor
  · rintro ⟨selector, val, hr, row, ⟨p, e, hp⟩, c, hc, he⟩
    exact ⟨selector, val, hr, p, row, c, e, hp, hc, he⟩
  · rintro ⟨selector, val, hr, p, row, c, e, hp, hc, he⟩
    exact ⟨selector, val, hr, row, ⟨p, e, hp⟩, c, hc, he⟩

/-- The columns that rules select are those of the table that meet one of them or to which the position
rules apply. -/
lemma mem_selectedColumns_iff {t : Table} {rules : List FilterRule} {column : Nat} :
    column ∈ t.selectedColumns rules ↔
      column < t.width ∧
        (JointlyApply (positionRules rules) column ∨ ∃ rule ∈ rules, MetByColumn t column rule) := by
  simp only [Table.selectedColumns, List.mem_append, List.mem_flatMap, mem_columnsByPosition_iff,
    mem_columnsByValue_iff, mem_columnsByGroup_iff, mem_groupRules_iff]
  constructor
  · rintro ((⟨hw, hp⟩ | ⟨selector, val, hr, h⟩) | ⟨group, hr, hw, h⟩)
    · exact ⟨hw, .inl hp⟩
    · exact ⟨h.lt_width, .inr ⟨_, hr, .value h⟩⟩
    · exact ⟨hw, .inr ⟨_, hr, h⟩⟩
  · rintro ⟨hw, hp | ⟨rule, hr, h⟩⟩
    · exact .inl (.inl ⟨hw, hp⟩)
    · cases h with
      | value h => exact .inl (.inr ⟨_, _, hr, h⟩)
      | all hp hv hg => exact .inr ⟨_, hr, hw, .all hp hv hg⟩

end FilterRule

end Tabular
