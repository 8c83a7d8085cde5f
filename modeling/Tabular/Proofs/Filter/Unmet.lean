import Tabular.Proofs.Filter.Composition
import Tabular.Proofs.Filter.Pooling
import Tabular.Proofs.Rule.Comparison
import Tabular.Proofs.Rule.Reading

/-!
# Conditions that are never met

A text that is no comparison is a condition that no position meets. It leaves out no line. But the conditions
of a list have to be met all at once, so that next to it no other condition of the list leaves out a line
either. It does no more than that: the list acts as if it had no conditions at all, and where there were none
before, or one already that is never met, nothing changes.

* `withoutConditions`: a list without its conditions.
* `ignoreRows_and_ignoreColumns_of_unmet`: a list with a condition that is never met acts like that.
* `ignoreRows_and_ignoreColumns_insert_not_written`: what a text that is no comparison does to a list.
-/

namespace Tabular

section

variable {positions : List Cell} {p : Cell} {i : Int}

/-- Next to a condition that is not met, position rules apply by their numbers only. -/
lemma jointlyApply_iff_of_unmet (hp : p ∈ positions) (hc : IsCondition p) (hunmet : ¬ MeetsCondition i p) :
    JointlyApply positions i ↔ ∃ q ∈ positions, GivesNumber i q := by
  constructor
  · intro h
    cases h with
    | inl hnumber => exact hnumber
    | inr hmet => exact absurd (hmet.2 p hp hc) hunmet
  · exact .inl

/-- Without conditions position rules apply to the numbers that they give. -/
lemma jointlyApply_iff_of_numbers (h : ∀ p ∈ positions, ¬ IsCondition p) :
    JointlyApply positions i ↔ ∃ q ∈ positions, GivesNumber i q := by
  constructor
  · intro happly
    cases happly with
    | inl hnumber => exact hnumber
    | inr hmet =>
      obtain ⟨p, hp, hc⟩ := hmet.1
      exact absurd hc (h p hp)
  · exact .inl

/-- A text that is no comparison is met by no position. -/
lemma not_meetsCondition_of_not_written {s : String} (h : ¬ Comparison.Written s.toList) :
    ¬ MeetsCondition i (.text s) := by
  intro met
  cases met with
  | text hread _ => exact h (Comparison.written_of_read? hread)

end

namespace FilterRule

/-- The rules of a list but for the conditions among its position rules. -/
def withoutConditions (rules : List FilterRule) : List FilterRule :=
  rules.filter fun
    | position index => (positionTest? index).isNone
    | _ => true

variable {rules rules' first second : List FilterRule} {rule : FilterRule} {row : Row} {i column : Nat}

/-- What is left without the conditions of a list are all its other rules. -/
lemma mem_withoutConditions_iff :
    rule ∈ withoutConditions rules ↔ rule ∈ rules ∧ ∀ index, rule = position index → ¬ IsCondition index := by
  rw [withoutConditions, List.mem_filter]
  apply and_congr_right
  intro _
  cases rule with
  | position index => simp [← positionTest?_isSome_iff]
  | value selector val => simp
  | all group => simp

/-- The position rules that are left are the ones that are no conditions. -/
lemma mem_positionRules_withoutConditions_iff {p : Cell} :
    p ∈ positionRules (withoutConditions rules) ↔ p ∈ positionRules rules ∧ ¬ IsCondition p := by
  rw [mem_positionRules_iff, mem_withoutConditions_iff, mem_positionRules_iff]
  simp

/-- Without the conditions, the position rules of a list apply by their numbers. -/
lemma jointlyApply_withoutConditions_iff :
    JointlyApply (positionRules (withoutConditions rules)) i ↔ ∃ p ∈ positionRules rules, GivesNumber i p := by
  have numbers : ∀ p ∈ positionRules (withoutConditions rules), ¬ IsCondition p :=
    fun p hp => (mem_positionRules_withoutConditions_iff.mp hp).2
  rw [jointlyApply_iff_of_numbers numbers]
  simp only [mem_positionRules_withoutConditions_iff]
  constructor
  · rintro ⟨p, hp, hnumber⟩
    exact ⟨p, hp.1, hnumber⟩
  · rintro ⟨p, hp, hnumber⟩
    exact ⟨p, ⟨hp, hnumber.not_isCondition⟩, hnumber⟩

/-- No row meets a position rule by itself. -/
lemma MetByRow.ne_position (met : MetByRow row i rule) (index : Cell) : rule ≠ position index := by
  rintro rfl
  cases met

/-- No column meets a position rule by itself. -/
lemma MetByColumn.ne_position {t : Table} (met : MetByColumn t column rule) (index : Cell) :
    rule ≠ position index := by
  rintro rfl
  cases met

/-- Rules leave out the same lines if their position rules apply alike and all others are the same. -/
lemma ignoreRows_and_ignoreColumns_congr
    (happly : ∀ i : Nat, JointlyApply (positionRules rules) i ↔ JointlyApply (positionRules rules') i)
    (hothers : ∀ rule, (∀ index, rule ≠ position index) → (rule ∈ rules ↔ rule ∈ rules')) (t : Table) :
    t.ignoreRows rules = t.ignoreRows rules' ∧ t.ignoreColumns rules = t.ignoreColumns rules' := by
  constructor
  · apply Table.ignoreRows_congr_of_met happly
    intro row i
    exact exists_congr fun rule => and_congr_left fun met => hothers rule met.ne_position
  · apply Table.ignoreColumns_congr_of_met happly
    intro column
    exact exists_congr fun rule => and_congr_left fun met => hothers rule met.ne_position

/-- With a condition that no position meets, rules leave out what they leave out without all conditions. -/
lemma ignoreRows_and_ignoreColumns_of_unmet {p : Cell} (hp : p ∈ positionRules rules) (hc : IsCondition p)
    (hunmet : ∀ i : Nat, ¬ MeetsCondition i p) (t : Table) :
    t.ignoreRows rules = t.ignoreRows (withoutConditions rules) ∧
      t.ignoreColumns rules = t.ignoreColumns (withoutConditions rules) := by
  apply ignoreRows_and_ignoreColumns_congr
  · intro i
    rw [jointlyApply_iff_of_unmet hp hc (hunmet i), jointlyApply_withoutConditions_iff]
  · intro rule hrule
    rw [mem_withoutConditions_iff]
    exact (and_iff_left fun index e => absurd e (hrule index)).symm

/-- A list without conditions is left as it is. -/
lemma withoutConditions_of_numbers (h : ∀ p ∈ positionRules rules, ¬ IsCondition p) :
    withoutConditions rules = rules := by
  apply List.filter_eq_self.mpr
  intro rule hr
  have kept : rule ∈ withoutConditions rules :=
    mem_withoutConditions_iff.mpr ⟨hr, fun index e => h index (mem_positionRules_iff.mpr (e ▸ hr))⟩
  exact (List.mem_filter.mp kept).2

/-- A text among the position rules is left out with the other conditions. -/
lemma withoutConditions_insert (first second : List FilterRule) (s : String) :
    withoutConditions (first ++ position (.text s) :: second) = withoutConditions (first ++ second) := by
  simp [withoutConditions, positionTest?]

/-- Leaving out conditions brings lines back and takes none away. -/
lemma exists_or_apply_of_withoutConditions {P : FilterRule → Prop}
    (h : JointlyApply (positionRules (withoutConditions rules)) i ∨ ∃ rule ∈ withoutConditions rules, P rule) :
    JointlyApply (positionRules rules) i ∨ ∃ rule ∈ rules, P rule := by
  cases h with
  | inl happly => exact .inl (.inl (jointlyApply_withoutConditions_iff.mp happly))
  | inr hmet =>
    obtain ⟨rule, hr, hmet⟩ := hmet
    exact .inr ⟨rule, (mem_withoutConditions_iff.mp hr).1, hmet⟩

/-- The conditions of a list can only take away more rows. -/
lemma ignoreRows_sublist_withoutConditions (rules : List FilterRule) (t : Table) :
    (t.ignoreRows rules).Sublist (t.ignoreRows (withoutConditions rules)) := by
  apply List.Sublist.map
  apply List.monotone_filter_right
  rintro ⟨row, i⟩ hkeep
  rw [keepsAsList_iff] at hkeep ⊢
  exact mt exists_or_apply_of_withoutConditions hkeep

/-- The conditions of a list can only take away more columns. -/
lemma ignoreColumns_sublist_withoutConditions (rules : List FilterRule) (t : Table) :
    List.Forall₂ List.Sublist (t.ignoreColumns rules) (t.ignoreColumns (withoutConditions rules)) := by
  rw [Table.ignoreColumns, Table.ignoreColumns, Table.removeColumns, Table.removeColumns,
    List.forall₂_map_left_iff, List.forall₂_map_right_iff, List.forall₂_same]
  intro row _
  apply List.Sublist.map
  apply List.monotone_filter_right
  rintro ⟨c, column⟩ hkeep
  simp only [Bool.not_eq_true', ← Bool.not_eq_true, List.contains_iff_mem, mem_selectedColumns_iff] at hkeep ⊢
  exact mt (And.imp_right exists_or_apply_of_withoutConditions) hkeep

end FilterRule

namespace Clause

/-- A clause that gives a position puts the rule of it into the list, at its place. -/
lemma exists_parse_insert {axis operation : String} {before later : List Cell} {rules : List FilterRule}
    {c index : Cell} (hp : position? c = some index) (hrecord : ∃ fields, c = .record fields)
    (h : FilterRule.parse axis operation (.list (before ++ later)) = .ok rules) :
    ∃ first second, rules = first ++ second ∧
      FilterRule.parse axis operation (.list (before ++ c :: later)) =
        .ok (first ++ .position index :: second) := by
  obtain ⟨records, items⟩ := parse_list_eq_ok_iff.mp h
  obtain ⟨first, second, hfirst, hsecond, rfl⟩ := parseItems_append_eq_ok_iff.mp items
  refine ⟨first, second, rfl, parse_list_eq_ok_iff.mpr ⟨?_, ?_⟩⟩
  · simp only [List.mem_append, List.mem_cons, or_imp, forall_and, forall_eq] at records ⊢
    exact ⟨records.1, hrecord, records.2⟩
  · have hitem := parseItems_cons_eq_ok_iff.mpr ⟨_, second, parseItem_of_position hp, hsecond, rfl⟩
    exact parseItems_append_eq_ok_iff.mpr ⟨first, _, hfirst, hitem, rfl⟩

end Clause

/-- A position rule with a text that is no comparison may be put anywhere into a list of rules. The filters then
act as if the list had no conditions: they leave out less than before, and the same if there were no conditions
or one that no position meets. -/
theorem ignoreRows_and_ignoreColumns_insert_not_written {axis operation s : String} {before later : List Cell}
    {rules : List FilterRule}
    (hs : ¬ Comparison.Written s.toList)
    (h : FilterRule.parse axis operation (.list (before ++ later)) = .ok rules) :
    ∃ rules', FilterRule.parse axis operation (.list (before ++ .record [("index", .text s)] :: later)) = .ok rules' ∧
      ∀ t : Table,
        (t.ignoreRows rules' = t.ignoreRows (FilterRule.withoutConditions rules) ∧
          t.ignoreColumns rules' = t.ignoreColumns (FilterRule.withoutConditions rules)) ∧
        ((t.ignoreRows rules).Sublist (t.ignoreRows rules') ∧
          List.Forall₂ List.Sublist (t.ignoreColumns rules) (t.ignoreColumns rules')) ∧
        ((∀ p ∈ positionRules rules, ¬ IsCondition p) ∨
            (∃ p ∈ positionRules rules, IsCondition p ∧ ∀ i : Nat, ¬ MeetsCondition i p) →
          t.ignoreRows rules' = t.ignoreRows rules ∧ t.ignoreColumns rules' = t.ignoreColumns rules) := by
  obtain ⟨first, second, rfl, h'⟩ := Clause.exists_parse_insert (c := .record [("index", .text s)]) rfl ⟨_, rfl⟩ h
  refine ⟨_, h', fun t => ?_⟩
  have hmem : Cell.text s ∈ positionRules (first ++ .position (.text s) :: second) :=
    mem_positionRules_iff.mpr (by simp)
  obtain ⟨hrows, hcolumns⟩ := FilterRule.ignoreRows_and_ignoreColumns_of_unmet hmem (.text s)
    (fun _ => not_meetsCondition_of_not_written hs) t
  rw [FilterRule.withoutConditions_insert] at hrows hcolumns
  rw [hrows, hcolumns]
  refine ⟨⟨rfl, rfl⟩, ⟨FilterRule.ignoreRows_sublist_withoutConditions _ t,
    FilterRule.ignoreColumns_sublist_withoutConditions _ t⟩, fun hnone => ?_⟩
  rcases hnone with hnumbers | ⟨p, hp, hc, hunmet⟩
  · rw [FilterRule.withoutConditions_of_numbers hnumbers]
    exact ⟨rfl, rfl⟩
  · obtain ⟨hrows', hcolumns'⟩ := FilterRule.ignoreRows_and_ignoreColumns_of_unmet hp hc hunmet t
    exact ⟨hrows'.symm, hcolumns'.symm⟩

/-- Between a number and a comparison: the number still leaves out its row. -/
theorem ignoreRows_and_ignoreColumns_insert_not_written_between :
    ¬ Comparison.Written "about three".toList ∧
    FilterRule.parse "col" "ignoreRowIf" (.list [.record [("index", .int 0)], .record [("index", .text ">=2")]]) =
      .ok [.position (.int 0), .position (.text ">=2")] ∧
    Table.ignoreRows [.position (.int 0), .position (.text "about three"), .position (.text ">=2")]
      [[.int 4], [.int 5], [.int 6]] = [[.int 5], [.int 6]] := by
  have hs : ¬ Comparison.Written "about three".toList := by
    intro h
    simpa using h.exists_mem
  have h : FilterRule.parse "col" "ignoreRowIf"
      (.list ([.record [("index", .int 0)]] ++ [.record [("index", .text ">=2")]])) =
      .ok [.position (.int 0), .position (.text ">=2")] := rfl
  obtain ⟨rules', hparse, hall⟩ := ignoreRows_and_ignoreColumns_insert_not_written hs h
  cases hparse
  exact ⟨hs, h, (hall _).1.1.trans rfl⟩

/-- Next to a text that is no comparison, a comparison no longer leaves out the row that it does alone. -/
theorem ignoreRows_next_to_not_written :
    ¬ Comparison.Written "about three".toList ∧
    FilterRule.parse "col" "ignoreRowIf" (.list [.record [("index", .text ">=1")]]) =
      .ok [.position (.text ">=1")] ∧
    FilterRule.parse "col" "ignoreRowIf"
        (.list [.record [("index", .text ">=1")], .record [("index", .text "about three")]]) =
      .ok [.position (.text ">=1"), .position (.text "about three")] ∧
    Table.ignoreRows [.position (.text ">=1")] [[.text "a"], [.text "b"]] = [[.text "a"]] ∧
    Table.ignoreRows [.position (.text ">=1"), .position (.text "about three")] [[.text "a"], [.text "b"]] =
      [[.text "a"], [.text "b"]] := by
  refine ⟨fun h => ?_, rfl, rfl, ?_, ?_⟩
  · simpa using h.exists_mem
  · rfl
  · rfl

end Tabular
