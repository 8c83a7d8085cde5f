import Tabular.Proofs.Filter.Columns
import Tabular.Proofs.Table.Removal

/-!
# Filters one after the other

Rules that look at values only, at every depth, do not ask where a line stands. So leaving out lines by
one list of such rules and then by another is leaving out lines by both lists at once. For rows that is
plain. When columns go, the others move, but the rows and their order stay: what a rule finds in a column
it finds in it at its new place.

* `PositionFree`: a rule that looks at values only.
* `ignoreRows_ignoreRows`, `ignoreColumns_ignoreColumns`: two lists of them are one.
* `ignoreRows_and_ignoreColumns_compose`: so they can be repeated and swapped.
-/

namespace Tabular

namespace FilterRule

/-- A rule has no position rules, at any depth. -/
inductive PositionFree : FilterRule → Prop where
  | value selector val : PositionFree (value selector val)
  | all {rules} : (∀ rule ∈ rules, PositionFree rule) → PositionFree (all rules)

variable {t : Table} {row : Row} {column i : Nat} {rule : FilterRule} {rules first second : List FilterRule}

/-- The members of a group without position rules are without them, too. -/
lemma PositionFree.members (h : (FilterRule.all rules).PositionFree) : ∀ rule ∈ rules, rule.PositionFree := by
  cases h with
  | all h => exact h

/-- A list without position rules has none. -/
lemma positionRules_of_positionFree (h : ∀ rule ∈ rules, rule.PositionFree) : positionRules rules = [] := by
  apply positionRules_eq_nil_iff.mpr
  rintro rule hr index rfl
  cases h _ hr

/-- Rules without position rules among them add none. -/
lemma positionRules_append_of_positionFree (h : ∀ rule ∈ second, rule.PositionFree) :
    positionRules (first ++ second) = positionRules first := by
  have hnil := positionRules_of_positionFree h
  rw [positionRules, List.filterMap_append]
  exact (congrArg (positionRules first ++ ·) hnil).trans (List.append_nil _)

/-- No position rules apply to nothing. -/
lemma not_jointlyApply_nil {i : Int} : ¬ JointlyApply [] i := by
  simp [JointlyApply]

/-! ## Rows -/

/-- A row meets a group without position rules by meeting all its members. -/
lemma PositionFree.metByRow_all_iff (h : (FilterRule.all rules).PositionFree) :
    MetByRow row i (.all rules) ↔ ∀ rule ∈ rules, MetByRow row i rule := by
  have hnil := positionRules_of_positionFree h.members
  constructor
  · intro met
    cases met with
    | positions hne _ => exact absurd hnil hne
    | members _ hall => exact hall
  · exact .members hnil

/-- Whether a row meets a rule without position rules does not depend on where it stands. -/
lemma PositionFree.metByRow_iff (h : rule.PositionFree) (j : Nat) : MetByRow row i rule ↔ MetByRow row j rule := by
  induction rule using FilterRule.inductionOn with
  | position index => cases h
  | value selector val =>
    constructor
    · intro met
      cases met with
      | value hv => exact .value hv
    · intro met
      cases met with
      | value hv => exact .value hv
  | all rules ih =>
    rw [h.metByRow_all_iff, h.metByRow_all_iff]
    exact forall₂_congr fun rule hr => ih rule hr (h.members rule hr)

/-- A list without position rules keeps the rows that meet none of its rules. -/
lemma keepsAsList_of_positionFree (h : ∀ rule ∈ rules, rule.PositionFree) :
    keepsAsList row i rules = true ↔ ∀ rule ∈ rules, ¬ MetByRow row i rule := by
  rw [keepsAsList_iff, positionRules_of_positionFree h]
  simp only [not_jointlyApply_nil, false_or, not_exists, not_and]

/-- Without position rules the index of a row does not matter. -/
lemma keepsAsList_congr (h : ∀ rule ∈ rules, rule.PositionFree) (j : Nat) :
    keepsAsList row i rules = keepsAsList row j rules := by
  rw [Bool.eq_iff_iff, keepsAsList_of_positionFree h, keepsAsList_of_positionFree h]
  exact forall₂_congr fun rule hr => not_congr ((h rule hr).metByRow_iff j)

/-- Two lists, the second without position rules, keep together what each of them keeps. -/
lemma keepsAsList_append (h : ∀ rule ∈ second, rule.PositionFree) :
    keepsAsList row i (first ++ second) = (keepsAsList row i first && keepsAsList row i second) := by
  rw [Bool.eq_iff_iff, Bool.and_eq_true, keepsAsList_iff, keepsAsList_iff, keepsAsList_of_positionFree h,
    positionRules_append_of_positionFree h]
  simp only [List.mem_append, or_and_right, exists_or, not_or, not_exists, not_and, and_assoc]

/-! ## Columns -/

/-- A column that is kept holds the same cells at its new place. -/
lemma columnHoldsAt_removeColumns_iff {drops : Nat → Bool} (hkeep : drops column = false) {selector : Selector}
    {val : Cell} :
    ColumnHoldsAt (t.removeColumns drops) selector val (placeAfter drops column) ↔
      ColumnHoldsAt t selector val column := by
  simp only [ColumnHoldsAt, Table.getElem?_removeColumns, Option.map_eq_some_iff]
  constructor
  · rintro ⟨p, _, cell, ⟨row, hrow, rfl⟩, hp, hcell, e⟩
    rw [getElem?_keptCells_placeAfter hkeep] at hcell
    exact ⟨p, row, cell, hrow, hp, hcell, e⟩
  · rintro ⟨p, row, cell, hrow, hp, hcell, e⟩
    rw [← getElem?_keptCells_placeAfter hkeep] at hcell
    exact ⟨p, _, cell, ⟨row, hrow, rfl⟩, hp, hcell, e⟩

/-- A column meets a group without position rules by meeting all its members. -/
lemma PositionFree.metByColumn_all_iff (h : (FilterRule.all rules).PositionFree) :
    MetByColumn t column (.all rules) ↔ ∀ rule ∈ rules, MetByColumn t column rule := by
  have hnil := positionRules_of_positionFree h.members
  constructor
  · intro met rule hr
    cases met with
    | all _ hv hg =>
      cases rule with
      | position index => cases h.members _ hr
      | value selector val => exact hv selector val hr
      | all group => exact hg group hr
  · intro hall
    exact .all (absurd hnil) (fun _ _ hr => hall _ hr) fun _ hr => hall _ hr

/-- A column that stays meets the same rules without position rules at its new place. -/
lemma PositionFree.metByColumn_removeColumns_iff {drops : Nat → Bool} (hkeep : drops column = false)
    (h : rule.PositionFree) :
    MetByColumn (t.removeColumns drops) (placeAfter drops column) rule ↔ MetByColumn t column rule := by
  induction rule using FilterRule.inductionOn with
  | position index => cases h
  | value selector val =>
    rw [metByColumn_value_iff, metByColumn_value_iff]
    exact columnHoldsAt_removeColumns_iff hkeep
  | all rules ih =>
    rw [h.metByColumn_all_iff, h.metByColumn_all_iff]
    exact forall₂_congr fun rule hr => ih rule hr (h.members rule hr)

/-- A list without position rules selects the columns that meet one of its rules. -/
lemma mem_selectedColumns_of_positionFree (h : ∀ rule ∈ rules, rule.PositionFree) :
    column ∈ t.selectedColumns rules ↔ column < t.width ∧ ∃ rule ∈ rules, MetByColumn t column rule := by
  rw [mem_selectedColumns_iff, positionRules_of_positionFree h]
  simp only [not_jointlyApply_nil, false_or]

/-- Rules without position rules select a column that stays at its new place if they select it where it
was. -/
lemma mem_selectedColumns_removeColumns_iff {drops : Nat → Bool} (h : ∀ rule ∈ rules, rule.PositionFree)
    (hrow : row ∈ t) (hcolumn : column < row.length) (hkeep : drops column = false) :
    placeAfter drops column ∈ (t.removeColumns drops).selectedColumns rules ↔ column ∈ t.selectedColumns rules := by
  have hw : column < t.width := Nat.lt_of_lt_of_le hcolumn (Table.length_le_width hrow)
  have hw' : placeAfter drops column < (t.removeColumns drops).width :=
    Table.placeAfter_lt_width_removeColumns hrow hcolumn hkeep
  rw [mem_selectedColumns_of_positionFree h, mem_selectedColumns_of_positionFree h]
  simp only [hw, hw', true_and]
  exact exists_congr fun rule => and_congr_right fun hr => (h rule hr).metByColumn_removeColumns_iff hkeep

/-- Two lists, the second without position rules, select together what either of them selects. -/
lemma mem_selectedColumns_append_iff (h : ∀ rule ∈ second, rule.PositionFree) :
    column ∈ t.selectedColumns (first ++ second) ↔
      column ∈ t.selectedColumns first ∨ column ∈ t.selectedColumns second := by
  rw [mem_selectedColumns_iff, mem_selectedColumns_iff, mem_selectedColumns_of_positionFree h,
    positionRules_append_of_positionFree h, ← and_or_left, or_assoc]
  simp only [List.mem_append, or_and_right, exists_or]

end FilterRule

namespace Table

open FilterRule

variable {first second : List FilterRule}

/-- Without position rules the rows of a table are kept one by one, wherever they stand. -/
lemma ignoreRows_of_positionFree {rules : List FilterRule} (h : ∀ rule ∈ rules, rule.PositionFree) (t : Table) :
    t.ignoreRows rules = t.filter fun row => keepsAsList row 0 rules := by
  have hfilter : t.zipIdx.filter (fun entry => keepsAsList entry.1 entry.2 rules) =
      t.zipIdx.filter fun entry => keepsAsList entry.1 0 rules := by
    apply List.filter_congr
    rintro ⟨row, index⟩ _
    exact keepsAsList_congr h 0
  calc t.ignoreRows rules
      = (t.zipIdx.filter fun entry => keepsAsList entry.1 0 rules).map Prod.fst := congrArg _ hfilter
    _ = (t.zipIdx.map Prod.fst).filter fun row => keepsAsList row 0 rules := by
      rw [List.filter_map]
      rfl
    _ = t.filter fun row => keepsAsList row 0 rules := by rw [List.zipIdx_map_fst]

/-- Leaving out rows by two lists, the second without position rules, is leaving them out by both together. -/
lemma ignoreRows_ignoreRows (h : ∀ rule ∈ second, rule.PositionFree) (t : Table) :
    (t.ignoreRows first).ignoreRows second = t.ignoreRows (first ++ second) := by
  rw [ignoreRows_of_positionFree h, ignoreRows, List.filter_map, List.filter_filter, ignoreRows]
  apply congrArg
  apply List.filter_congr
  rintro ⟨row, index⟩ _
  show (keepsAsList row 0 second && keepsAsList row index first) = keepsAsList row index (first ++ second)
  have anywhere : keepsAsList row 0 second = keepsAsList row index second := keepsAsList_congr h index
  rw [keepsAsList_append h, anywhere, Bool.and_comm]

/-- Leaving out columns by two lists, the second without position rules, is leaving them out by both together.
-/
lemma ignoreColumns_ignoreColumns (h : ∀ rule ∈ second, rule.PositionFree) (t : Table) :
    (t.ignoreColumns first).ignoreColumns second = t.ignoreColumns (first ++ second) := by
  rw [ignoreColumns, ignoreColumns, removeColumns_removeColumns, ignoreColumns]
  apply removeColumns_congr
  intro row hrow p hp
  rw [Bool.eq_iff_iff, Bool.or_eq_true, List.contains_iff_mem, List.contains_iff_mem,
    List.contains_iff_mem, mem_selectedColumns_append_iff h]
  apply or_congr_right'
  -- A column that the first rules leave is asked for by the second ones at its new place.
  intro hnot
  have hkeep : (t.selectedColumns first).contains p = false := by simpa using hnot
  exact mem_selectedColumns_removeColumns_iff h hrow hp hkeep

/-- Rules that drop the same columns leave the same table. -/
lemma ignoreColumns_congr {t : Table}
    (h : ∀ column, column ∈ t.selectedColumns first ↔ column ∈ t.selectedColumns second) :
    t.ignoreColumns first = t.ignoreColumns second := by
  apply removeColumns_congr
  intro row _ p _
  rw [Bool.eq_iff_iff, List.contains_iff_mem, List.contains_iff_mem]
  exact h p

/-- Lists that keep the same rows leave the same table. -/
lemma ignoreRows_congr {t : Table}
    (h : ∀ row index, keepsAsList row index first = keepsAsList row index second) :
    t.ignoreRows first = t.ignoreRows second := by
  unfold ignoreRows
  apply congrArg
  apply List.filter_congr
  rintro ⟨row, index⟩ _
  exact h row index

/-- Rules leave out the same rows if their position rules apply to the same ones and the same ones meet some
other rule. -/
lemma ignoreRows_congr_of_met
    (happly : ∀ i : Nat, JointlyApply (positionRules first) i ↔ JointlyApply (positionRules second) i)
    (hmet : ∀ row i, (∃ rule ∈ first, MetByRow row i rule) ↔ ∃ rule ∈ second, MetByRow row i rule) (t : Table) :
    t.ignoreRows first = t.ignoreRows second := by
  apply ignoreRows_congr
  intro row i
  rw [Bool.eq_iff_iff, keepsAsList_iff, keepsAsList_iff, happly, hmet]

/-- Lists whose position rules apply alike and whose other rules are met alike leave the same columns. -/
lemma ignoreColumns_congr_of_met {t : Table}
    (happly : ∀ i : Nat, JointlyApply (positionRules first) i ↔ JointlyApply (positionRules second) i)
    (hmet : ∀ column, (∃ rule ∈ first, MetByColumn t column rule) ↔ ∃ rule ∈ second, MetByColumn t column rule) :
    t.ignoreColumns first = t.ignoreColumns second := by
  apply ignoreColumns_congr
  intro column
  rw [mem_selectedColumns_iff, mem_selectedColumns_iff, happly, hmet]

end Table

/-- Rules that look at values only filter one list after the other as they do all at once, in any order
and as often as one likes. -/
theorem ignoreRows_and_ignoreColumns_compose {first second : List FilterRule}
    (hfirst : ∀ rule ∈ first, rule.PositionFree) (hsecond : ∀ rule ∈ second, rule.PositionFree) (t : Table) :
    ((t.ignoreRows first).ignoreRows second = t.ignoreRows (first ++ second) ∧
      (t.ignoreColumns first).ignoreColumns second = t.ignoreColumns (first ++ second)) ∧
    ((t.ignoreRows first).ignoreRows first = t.ignoreRows first ∧
      (t.ignoreColumns first).ignoreColumns first = t.ignoreColumns first) ∧
    ((t.ignoreRows first).ignoreRows second = (t.ignoreRows second).ignoreRows first ∧
      (t.ignoreColumns first).ignoreColumns second = (t.ignoreColumns second).ignoreColumns first) := by
  refine ⟨⟨?_, ?_⟩, ⟨?_, ?_⟩, ?_, ?_⟩
  · exact t.ignoreRows_ignoreRows hsecond
  · exact t.ignoreColumns_ignoreColumns hsecond
  · rw [Table.ignoreRows_ignoreRows hfirst]
    apply Table.ignoreRows_congr
    intro row index
    rw [FilterRule.keepsAsList_append hfirst, Bool.and_self]
  · rw [Table.ignoreColumns_ignoreColumns hfirst]
    apply Table.ignoreColumns_congr
    intro column
    rw [FilterRule.mem_selectedColumns_append_iff hfirst, or_self]
  · rw [Table.ignoreRows_ignoreRows hsecond, Table.ignoreRows_ignoreRows hfirst]
    apply Table.ignoreRows_congr
    intro row index
    rw [FilterRule.keepsAsList_append hsecond, FilterRule.keepsAsList_append hfirst, Bool.and_comm]
  · rw [Table.ignoreColumns_ignoreColumns hsecond, Table.ignoreColumns_ignoreColumns hfirst]
    apply Table.ignoreColumns_congr
    intro column
    rw [FilterRule.mem_selectedColumns_append_iff hsecond, FilterRule.mem_selectedColumns_append_iff hfirst,
      or_comm]

/-- A value looked for in all rows, and then a group with a group in it, on rows of different lengths. -/
theorem ignoreRows_and_ignoreColumns_compose_ragged :
    (∀ rule ∈ [FilterRule.value .any (.text "x")], rule.PositionFree) ∧
    (∀ rule ∈ [FilterRule.all [.value (.only [.int 0]) (.int 1), .all [.value .any (.int 2)]]], rule.PositionFree) ∧
    Table.ignoreColumns [.all [.value (.only [.int 0]) (.int 1), .all [.value .any (.int 2)]]]
      (Table.ignoreColumns [.value .any (.text "x")] [[.text "x", .int 1, .int 3], [.int 0, .int 2]]) =
        [[.int 3], []] ∧
    Table.ignoreColumns
      [.value .any (.text "x"), .all [.value (.only [.int 0]) (.int 1), .all [.value .any (.int 2)]]]
      [[.text "x", .int 1, .int 3], [.int 0, .int 2]] = [[.int 3], []] := by
  have hfirst : ∀ rule ∈ [FilterRule.value .any (.text "x")], rule.PositionFree :=
    List.forall_mem_singleton.mpr (.value _ _)
  have hsecond : ∀ rule ∈ [FilterRule.all [.value (.only [.int 0]) (.int 1), .all [.value .any (.int 2)]]],
      rule.PositionFree := by
    refine List.forall_mem_singleton.mpr (.all ?_)
    simp only [List.forall_mem_cons]
    exact ⟨.value _ _, .all (List.forall_mem_singleton.mpr (.value _ _)), nofun⟩
  have h := ignoreRows_and_ignoreColumns_compose hfirst hsecond [[.text "x", .int 1, .int 3], [.int 0, .int 2]]
  have htwice : Table.ignoreColumns [.all [.value (.only [.int 0]) (.int 1), .all [.value .any (.int 2)]]]
      (Table.ignoreColumns [.value .any (.text "x")] [[.text "x", .int 1, .int 3], [.int 0, .int 2]]) =
        [[.int 3], []] := rfl
  exact ⟨hfirst, hsecond, htwice, h.1.2.symm.trans htwice⟩

end Tabular
