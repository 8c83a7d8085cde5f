import Tabular.Proofs.Filter.Composition
import Tabular.Proofs.Operation.Places

/-!
# Operations that do not get in each other's way

Rules that ask for positions only, at every depth, choose the same rows whatever the rows hold, and the same
columns of all tables that have them. So leaving out rows by such rules goes with everything that is done to
each row for itself, and leaving out columns by such rules goes with everything that is done to the cells of a
row regardless of their columns. Neither of the two filters moves what the other one counts.

* `PositionOnly`: a rule that asks for positions only.
* `ignoreColumns_ignoreRows`: the two filters in either order.
* `ignoreRows_ignoreColumns_replace_comm`: filters and replacements in any order.
-/

namespace Tabular

namespace FilterRule

/-- A rule asks for positions only, at every depth. -/
inductive PositionOnly : FilterRule → Prop where
  | position index : PositionOnly (position index)
  | all {rules} : (∀ rule ∈ rules, PositionOnly rule) → PositionOnly (all rules)

variable {t u : Table} {row : Row} {column i : Nat} {rule : FilterRule} {rules : List FilterRule}

/-- The members of a group of positions alone are rules for positions alone. -/
lemma PositionOnly.members (h : (FilterRule.all rules).PositionOnly) : ∀ rule ∈ rules, rule.PositionOnly := by
  cases h with
  | all h => exact h

/-- A rule for positions alone is met by each row at an index or by none. -/
lemma PositionOnly.metByRow (h : rule.PositionOnly) (met : MetByRow row i rule) (other : Row) :
    MetByRow other i rule := by
  induction rule using FilterRule.inductionOn with
  | position index => cases met
  | value selector val => cases h
  | all rules ih =>
    cases met with
    | positions hne ha => exact .positions hne ha
    | members hnil hall => exact .members hnil fun rule hr => ih rule hr (h.members rule hr) (hall rule hr)

/-- A rule for positions alone is met by a column of each table or of none. -/
lemma PositionOnly.metByColumn (h : rule.PositionOnly) (met : MetByColumn t column rule) (other : Table) :
    MetByColumn other column rule := by
  induction rule using FilterRule.inductionOn with
  | position index => cases met
  | value selector val => cases h
  | all rules ih =>
    cases met with
    | all hp _ hg =>
      refine .all hp (fun selector val hr => ?_) (fun group hr => ?_)
      · cases h.members _ hr
      · exact ih _ hr (h.members _ hr) (hg group hr)

/-- The cells of a row do not matter to a rule for positions alone. -/
lemma PositionOnly.metByRow_iff (h : rule.PositionOnly) (row other : Row) :
    MetByRow row i rule ↔ MetByRow other i rule :=
  ⟨fun met => h.metByRow met other, fun met => h.metByRow met row⟩

/-- The cells of a table do not matter to a rule for positions alone. -/
lemma PositionOnly.metByColumn_iff (h : rule.PositionOnly) (t u : Table) :
    MetByColumn t column rule ↔ MetByColumn u column rule :=
  ⟨fun met => h.metByColumn met u, fun met => h.metByColumn met t⟩

/-- Whether position rules keep a row does not depend on what it holds. -/
lemma keepsAsList_of_positionOnly (h : ∀ rule ∈ rules, rule.PositionOnly) (row other : Row) (i : Nat) :
    keepsAsList row i rules = keepsAsList other i rules := by
  rw [Bool.eq_iff_iff, keepsAsList_iff, keepsAsList_iff]
  apply not_congr
  apply or_congr_right
  exact exists_congr fun rule => and_congr_right fun hr => (h rule hr).metByRow_iff row other

/-- Position rules select the same columns of all tables that have them. -/
lemma mem_selectedColumns_of_positionOnly (h : ∀ rule ∈ rules, rule.PositionOnly) (ht : column < t.width)
    (hu : column < u.width) : column ∈ t.selectedColumns rules ↔ column ∈ u.selectedColumns rules := by
  rw [mem_selectedColumns_iff, mem_selectedColumns_iff]
  simp only [ht, hu, true_and]
  apply or_congr_right
  exact exists_congr fun rule => and_congr_right fun hr => (h rule hr).metByColumn_iff t u

end FilterRule

/-- Replacements do the same at two places that are both in the scope of the same ones. -/
lemma Replacement.foldl_apply_congr {replacements : List Replacement} {row row' column column' : Nat}
    (h : ∀ r ∈ replacements, inScope r.rows r.cols row column = inScope r.rows r.cols row' column') (c : Cell) :
    replacements.foldl (apply row column) c = replacements.foldl (apply row' column') c := by
  apply List.foldl_ext
  intro c r hr
  rw [apply, apply, h r hr]

namespace Table

open FilterRule

/-- A row after replacements, as if it were the first one of a table. -/
def replaceRow (replacements : List Replacement) (cells : Row) : Row :=
  cells.zipIdx.map fun (c, column) => replacements.foldl (Replacement.apply 0 column) c

variable {t u : Table} {rules : List FilterRule} {replacements : List Replacement}

/-! ## Rows -/

/-- Changing the rows one by one and leaving out some by position can be done in either order. -/
lemma ignoreRows_map (h : ∀ rule ∈ rules, rule.PositionOnly) (f : Row → Row) (t : Table) :
    ignoreRows rules (t.map f) = (t.ignoreRows rules).map f := by
  have hfilter : t.zipIdx.filter (fun entry => keepsAsList (f entry.1) entry.2 rules) =
      t.zipIdx.filter fun entry => keepsAsList entry.1 entry.2 rules := by
    apply List.filter_congr
    rintro ⟨row, index⟩ _
    exact keepsAsList_of_positionOnly h (f row) row index
  calc ignoreRows rules (t.map f)
      = (t.zipIdx.filter fun entry => keepsAsList (f entry.1) entry.2 rules).map fun entry => f entry.1 := by
        rw [ignoreRows, List.zipIdx_map, List.filter_map, List.map_map]
        rfl
    _ = (t.ignoreRows rules).map f := by
        rw [hfilter, ignoreRows, List.map_map]
        rfl

/-- Leaving out rows does not make a table wider. -/
lemma width_ignoreRows_le (t : Table) (rules : List FilterRule) : (t.ignoreRows rules).width ≤ t.width := by
  cases hnil : t.ignoreRows rules with
  | nil => exact Nat.zero_le _
  | cons first rest =>
    obtain ⟨row, hrow, hlength⟩ := exists_length_eq_width (hnil ▸ List.cons_ne_nil first rest)
    obtain ⟨entry, hentry, rfl⟩ := List.mem_map.mp hrow
    have hmem : entry.1 ∈ t := List.fst_mem_of_mem_zipIdx (List.mem_filter.mp hentry).1
    rw [← hnil, ← hlength]
    exact length_le_width hmem

/-- Replacements in all rows change every row for itself. -/
lemma replace_eq_map (h : ∀ r ∈ replacements, r.rows = .any) (t : Table) :
    t.replace replacements = t.map (replaceRow replacements) := by
  have hplace : ∀ row column c, replacements.foldl (Replacement.apply row column) c =
      replacements.foldl (Replacement.apply 0 column) c := by
    intro row column c
    apply Replacement.foldl_apply_congr
    intro r hr
    rw [h r hr]
    rfl
  rw [← map_zipIdx_fst, replace, mapPlaces]
  simp only [hplace, replaceRow]

/-! ## Columns -/

/-- Position rules that drop columns of a table drop the same ones of every narrower table. -/
lemma ignoreColumns_eq_removeColumns (h : ∀ rule ∈ rules, rule.PositionOnly) (hwidth : u.width ≤ t.width) :
    u.ignoreColumns rules = u.removeColumns (t.selectedColumns rules).contains := by
  apply removeColumns_congr
  intro row hrow p hp
  have hu : p < u.width := Nat.lt_of_lt_of_le hp (length_le_width hrow)
  rw [Bool.eq_iff_iff, List.contains_iff_mem, List.contains_iff_mem]
  exact mem_selectedColumns_of_positionOnly h hu (Nat.lt_of_lt_of_le hu hwidth)

/-- Replacements in all columns change every cell of a row alike. -/
lemma replace_eq_mapPlaces (h : ∀ r ∈ replacements, r.cols = .any) (t : Table) :
    t.replace replacements = t.mapPlaces fun row _ => replacements.foldl (Replacement.apply row 0) := by
  rw [replace]
  congr 1
  funext row column c
  apply Replacement.foldl_apply_congr
  intro r hr
  rw [h r hr]
  rfl

/-- Changing cells row by row and leaving out columns can be done in either order. -/
lemma removeColumns_mapPlaces (drops : Nat → Bool) (f : Nat → Cell → Cell) (t : Table) :
    (t.mapPlaces fun row _ => f row).removeColumns drops = (t.removeColumns drops).mapPlaces fun row _ => f row := by
  simp only [removeColumns_eq_map, mapPlaces, map_zipIdx_fst, List.map_map, List.zipIdx_map]
  apply List.map_congr_left
  intro entry _
  exact keptCells_map (f entry.2) entry.1

/-- Replacing in all columns and leaving out some by position can be done in either order. -/
lemma ignoreColumns_replace (hrules : ∀ rule ∈ rules, rule.PositionOnly)
    (h : ∀ r ∈ replacements, r.cols = .any) (t : Table) :
    (t.replace replacements).ignoreColumns rules = (t.ignoreColumns rules).replace replacements := by
  have hwidth : (t.replace replacements).width ≤ t.width := Nat.le_of_eq (width_mapPlaces _ t)
  rw [ignoreColumns_eq_removeColumns hrules hwidth, replace_eq_mapPlaces h, removeColumns_mapPlaces,
    replace_eq_mapPlaces h]
  rfl

/-- Replacing in all rows and leaving out some by position can be done in either order. -/
lemma ignoreRows_replace (hrules : ∀ rule ∈ rules, rule.PositionOnly) (h : ∀ r ∈ replacements, r.rows = .any)
    (t : Table) : (t.replace replacements).ignoreRows rules = (t.ignoreRows rules).replace replacements := by
  rw [replace_eq_map h, replace_eq_map h, ignoreRows_map hrules]

/-- Rows left out by position may make a table narrower, but the columns that are beyond its width then have
no cells any more. -/
lemma ignoreColumns_ignoreRows {rows columns : List FilterRule} (hrows : ∀ rule ∈ rows, rule.PositionOnly)
    (hcolumns : ∀ rule ∈ columns, rule.PositionOnly) (t : Table) :
    (t.ignoreRows rows).ignoreColumns columns = (t.ignoreColumns columns).ignoreRows rows := by
  rw [ignoreColumns_eq_removeColumns hcolumns (t.width_ignoreRows_le rows), removeColumns_eq_map,
    ← ignoreRows_map hrows]
  rfl

end Table

/-- Leaving out rows and leaving out columns by position go with each other. Replacements in all rows go with
the first, and replacements in all columns with the second. -/
theorem ignoreRows_ignoreColumns_replace_comm {rows columns : List FilterRule}
    (hrows : ∀ rule ∈ rows, rule.PositionOnly) (hcolumns : ∀ rule ∈ columns, rule.PositionOnly) (t : Table) :
    (t.ignoreRows rows).ignoreColumns columns = (t.ignoreColumns columns).ignoreRows rows ∧
    (∀ replacements : List Replacement, (∀ r ∈ replacements, r.rows = .any) →
      (t.ignoreRows rows).replace replacements = (t.replace replacements).ignoreRows rows) ∧
    ∀ replacements : List Replacement, (∀ r ∈ replacements, r.cols = .any) →
      (t.ignoreColumns columns).replace replacements = (t.replace replacements).ignoreColumns columns := by
  refine ⟨t.ignoreColumns_ignoreRows hrows hcolumns, fun replacements h => ?_, fun replacements h => ?_⟩
  · exact (t.ignoreRows_replace hrows h).symm
  · exact (t.ignoreColumns_replace hcolumns h).symm

/-- The longest row of the table goes, and with it a column that the column rules ask for. -/
theorem ignoreRows_ignoreColumns_replace_comm_ragged :
    (∀ rule ∈ [FilterRule.all [.position (.list [.int 0, .int 2]), .all [.position (.int 1)]]], rule.PositionOnly) ∧
    (∀ rule ∈ [FilterRule.position (.int 3), .position (.text ">=1"), .position (.text "<2")], rule.PositionOnly) ∧
    Table.ignoreRows [.all [.position (.list [.int 0, .int 2]), .all [.position (.int 1)]]]
        (Table.ignoreColumns [.position (.int 3), .position (.text ">=1"), .position (.text "<2")]
          [[.int 0, .int 1, .int 2, .int 3], [.text "x"], [.int 0, .int 1], [.text "y", .text "x", .text "x"]]) =
      [[.text "x"], [.text "y", .text "x"]] ∧
    Table.ignoreRows [.all [.position (.list [.int 0, .int 2]), .all [.position (.int 1)]]]
        (Table.replace [⟨.text "x", .null, .any, .only [.int 0, .int 2]⟩]
          [[.int 0, .int 1, .int 2, .int 3], [.text "x"], [.int 0, .int 1], [.text "y", .text "x", .text "x"]]) =
      [[.null], [.text "y", .text "x", .null]] ∧
    Table.ignoreColumns [.position (.int 3), .position (.text ">=1"), .position (.text "<2")]
        (Table.replace [⟨.text "x", .null, .only [.int 1], .any⟩]
          [[.int 0, .int 1, .int 2, .int 3], [.text "x"], [.int 0, .int 1], [.text "y", .text "x", .text "x"]]) =
      [[.int 0, .int 2], [.null], [.int 0], [.text "y", .text "x"]] := by
  have hrows : ∀ rule ∈ [FilterRule.all [.position (.list [.int 0, .int 2]), .all [.position (.int 1)]]],
      rule.PositionOnly := by
    refine List.forall_mem_singleton.mpr (.all ?_)
    simp only [List.forall_mem_cons]
    exact ⟨.position _, .all (List.forall_mem_singleton.mpr (.position _)), nofun⟩
  have hcolumns : ∀ rule ∈ [FilterRule.position (.int 3), .position (.text ">=1"), .position (.text "<2")],
      rule.PositionOnly := by
    simp only [List.forall_mem_cons]
    exact ⟨.position _, .position _, .position _, nofun⟩
  obtain ⟨hfilters, hreplaceRows, hreplaceColumns⟩ := ignoreRows_ignoreColumns_replace_comm hrows hcolumns
    [[.int 0, .int 1, .int 2, .int 3], [.text "x"], [.int 0, .int 1], [.text "y", .text "x", .text "x"]]
  refine ⟨hrows, hcolumns, hfilters.symm, ?_, ?_⟩
  · exact (hreplaceRows _ (List.forall_mem_singleton.mpr rfl)).symm
  · exact (hreplaceColumns _ (List.forall_mem_singleton.mpr rfl)).symm

end Tabular
