import Mathlib.Logic.Relation
import Tabular.Proofs.Filter.Composition
import Tabular.Proofs.Filter.Pooling

/-!
# Order and repetition of rules

A list of rules may be written in any order and with repetitions, and so may the groups in it, at every
depth. Not that a filter asks its rules in any order: it asks position rules first, then values, then
groups. But position rules together, and the rules of a group together, only say what their set says. So a
change in a group makes a rule that the same lines meet, and lists in which each rule of one has its like in
the other leave out the same lines.

* `Rearranged`: lists that differ in order and repetition, at any depth.
* `CoveredBy`: each rule of a list has its like in another.
* `Rearranges.covered`: rearranged lists cover each other.
* `ignoreRows_and_ignoreColumns_of_rearranged`: and leave out the same lines.
-/

namespace Tabular

namespace FilterRule

/-- One rearrangement of rules: they are put in another order, a rule goes that stands elsewhere in the list
too, or the rules of a group are rearranged. -/
inductive Rearranges : List FilterRule → List FilterRule → Prop where
  | reorder {rules rules'} : rules.Perm rules' → Rearranges rules rules'
  | drop {rule} before later : rule ∈ before ++ later →
    Rearranges (before ++ rule :: later) (before ++ later)
  | within {group group'} before later : Rearranges group group' →
    Rearranges (before ++ all group :: later) (before ++ all group' :: later)

/-- Rules that come out the same by rearrangements of both. -/
def Rearranged : List FilterRule → List FilterRule → Prop :=
  Relation.EqvGen Rearranges

/-- Two rules that cannot be told apart: they give the same position, if any, and the same rows and columns
meet them. -/
structure Alike (rule rule' : FilterRule) : Prop where
  position : ∀ index, rule = position index ↔ rule' = position index
  byRow : ∀ row i, MetByRow row i rule ↔ MetByRow row i rule'
  byColumn : ∀ t column, MetByColumn t column rule ↔ MetByColumn t column rule'

/-- Each rule of a list has its like in another list. -/
def CoveredBy (rules rules' : List FilterRule) : Prop :=
  ∀ rule ∈ rules, ∃ rule' ∈ rules', Alike rule rule'

variable {t : Table} {row : Row} {column i : Nat} {rule rule' : FilterRule} {rules rules' : List FilterRule}

/-- A rule is like itself. -/
lemma Alike.refl (rule : FilterRule) : Alike rule rule where
  position _ := Iff.rfl
  byRow _ _ := Iff.rfl
  byColumn _ _ := Iff.rfl

/-- Which of two rules is like the other does not matter. -/
lemma Alike.symm (h : Alike rule rule') : Alike rule' rule where
  position index := (h.position index).symm
  byRow row i := (h.byRow row i).symm
  byColumn t column := (h.byColumn t column).symm

/-- More rules cover fewer. -/
lemma coveredBy_of_subset (h : rules ⊆ rules') : CoveredBy rules rules' := by
  intro rule hr
  exact ⟨rule, h hr, .refl rule⟩

/-- Replacing a rule by its like in a list covers the list. -/
lemma CoveredBy.replace (h : Alike rule rule') (before later : List FilterRule) :
    CoveredBy (before ++ rule :: later) (before ++ rule' :: later) := by
  intro other hr
  rcases List.mem_append.mp hr with hr | hr
  · exact ⟨other, List.mem_append_left _ hr, .refl other⟩
  · rcases List.mem_cons.mp hr with rfl | hr
    · exact ⟨rule', List.mem_append_right _ List.mem_cons_self, h⟩
    · exact ⟨other, List.mem_append_right _ (List.mem_cons_of_mem _ hr), .refl other⟩

/-- A list has the position rules of those that it covers. -/
lemma CoveredBy.position (h : CoveredBy rules rules') {index : Cell} (hp : index ∈ positionRules rules) :
    index ∈ positionRules rules' := by
  obtain ⟨rule', hr', alike⟩ := h _ (mem_positionRules_iff.mp hp)
  have e := (alike.position index).mp rfl
  exact mem_positionRules_iff.mpr (e ▸ hr')

/-- Lists that cover each other have the same position rules. -/
lemma mem_positionRules_congr (h : CoveredBy rules rules') (h' : CoveredBy rules' rules) (index : Cell) :
    index ∈ positionRules rules ↔ index ∈ positionRules rules' :=
  ⟨h.position, h'.position⟩

/-- Whether position rules apply depends on which there are, not on their order or their repetition. -/
lemma jointlyApply_congr {positions positions' : List Cell} (h : ∀ p, p ∈ positions ↔ p ∈ positions')
    {i : Int} : JointlyApply positions i ↔ JointlyApply positions' i := by
  simp only [JointlyApply, h]

/-- A list that covers one with position rules has some. -/
lemma positionRules_ne_nil_of_covered (h : CoveredBy rules rules') (hne : positionRules rules ≠ []) :
    positionRules rules' ≠ [] := by
  obtain ⟨index, hp⟩ := List.exists_mem_of_ne_nil _ hne
  exact List.ne_nil_of_mem (h.position hp)

/-- A column meets a group if the position rules apply to it, should there be any, and it meets every other
member. -/
lemma metByColumn_all_iff :
    MetByColumn t column (all rules) ↔
      (positionRules rules ≠ [] → JointlyApply (positionRules rules) column) ∧
        ∀ rule ∈ rules, (∀ index, rule ≠ position index) → MetByColumn t column rule := by
  constructor
  · intro met
    cases met with
    | all hp hv hg =>
      refine ⟨hp, fun rule hr hother => ?_⟩
      cases rule with
      | position index => exact absurd rfl (hother index)
      | value selector val => exact hv selector val hr
      | all group => exact hg group hr
  · rintro ⟨hp, hall⟩
    exact .all hp (fun _ _ hr => hall _ hr nofun) fun _ hr => hall _ hr nofun

/-- A row meets a group if it meets one of members that cover its own and are covered by them. -/
lemma MetByRow.of_covered (h : CoveredBy rules rules') (h' : CoveredBy rules' rules)
    (met : MetByRow row i (all rules)) : MetByRow row i (all rules') := by
  cases met with
  | positions hne ha =>
    apply MetByRow.positions (positionRules_ne_nil_of_covered h hne)
    exact (jointlyApply_congr (mem_positionRules_congr h h')).mp ha
  | members hnil hall =>
    apply MetByRow.members
    · by_contra hne
      exact positionRules_ne_nil_of_covered h' hne hnil
    · intro rule' hr'
      obtain ⟨rule, hr, alike⟩ := h' rule' hr'
      exact (alike.byRow row i).mpr (hall rule hr)

/-- A column meets a group if it meets one of members that cover its own and are covered by them. -/
lemma MetByColumn.of_covered (h : CoveredBy rules rules') (h' : CoveredBy rules' rules)
    (met : MetByColumn t column (.all rules)) : MetByColumn t column (.all rules') := by
  obtain ⟨hp, hall⟩ := metByColumn_all_iff.mp met
  apply metByColumn_all_iff.mpr
  constructor
  · intro hne
    have ha := hp (positionRules_ne_nil_of_covered h' hne)
    exact (jointlyApply_congr (mem_positionRules_congr h h')).mp ha
  · intro rule' hr' hother
    obtain ⟨rule, hr, alike⟩ := h' rule' hr'
    apply (alike.byColumn t column).mpr
    apply hall rule hr
    intro index e
    exact hother index ((alike.position index).mpr e)

/-- Groups that cover each other cannot be told apart. -/
lemma Alike.group (h : CoveredBy rules rules') (h' : CoveredBy rules' rules) :
    Alike (.all rules) (.all rules') where
  position _ := iff_of_false nofun nofun
  byRow _ _ := ⟨.of_covered h h', .of_covered h' h⟩
  byColumn _ _ := ⟨.of_covered h h', .of_covered h' h⟩

/-- Rearranged rules cover each other. -/
lemma Rearranges.covered (h : Rearranges rules rules') : CoveredBy rules rules' ∧ CoveredBy rules' rules := by
  induction h with
  | reorder perm => exact ⟨coveredBy_of_subset perm.subset, coveredBy_of_subset perm.symm.subset⟩
  | @drop rule before later hr =>
    constructor
    · apply coveredBy_of_subset
      intro other hother
      rcases List.mem_cons.mp (List.perm_middle.mem_iff.mp hother) with rfl | hother
      · exact hr
      · exact hother
    · apply coveredBy_of_subset
      intro other hother
      exact List.perm_middle.mem_iff.mpr (List.mem_cons_of_mem rule hother)
  | within before later _ ih =>
    have alike := Alike.group ih.1 ih.2
    exact ⟨.replace alike before later, .replace alike.symm before later⟩

/-- The same rows meet some rule of lists that cover each other. -/
lemma exists_metByRow_of_covered (h : CoveredBy rules rules') (met : ∃ rule ∈ rules, MetByRow row i rule) :
    ∃ rule ∈ rules', MetByRow row i rule := by
  obtain ⟨rule, hr, met⟩ := met
  obtain ⟨rule', hr', alike⟩ := h rule hr
  exact ⟨rule', hr', (alike.byRow row i).mp met⟩

/-- A column that meets a rule meets one of each list that covers it. -/
lemma exists_metByColumn_of_covered (h : CoveredBy rules rules')
    (met : ∃ rule ∈ rules, MetByColumn t column rule) : ∃ rule ∈ rules', MetByColumn t column rule := by
  obtain ⟨rule, hr, met⟩ := met
  obtain ⟨rule', hr', alike⟩ := h rule hr
  exact ⟨rule', hr', (alike.byColumn t column).mp met⟩

/-- Lists that cover each other leave the same rows. -/
lemma ignoreRows_eq_of_covered (h : CoveredBy rules rules') (h' : CoveredBy rules' rules) (t : Table) :
    t.ignoreRows rules = t.ignoreRows rules' := by
  apply Table.ignoreRows_congr_of_met
  · exact fun i => jointlyApply_congr (mem_positionRules_congr h h')
  · exact fun row i => ⟨exists_metByRow_of_covered h, exists_metByRow_of_covered h'⟩

/-- Lists that cover each other leave the same columns. -/
lemma ignoreColumns_eq_of_covered (h : CoveredBy rules rules') (h' : CoveredBy rules' rules) (t : Table) :
    t.ignoreColumns rules = t.ignoreColumns rules' := by
  apply Table.ignoreColumns_congr_of_met
  · exact fun i => jointlyApply_congr (mem_positionRules_congr h h')
  · exact fun column => ⟨exists_metByColumn_of_covered h, exists_metByColumn_of_covered h'⟩

end FilterRule

/-- Filters do not see the order and the repetitions of rules, in a list and in the groups of it at every
depth. -/
theorem ignoreRows_and_ignoreColumns_of_rearranged {rules rules' : List FilterRule}
    (h : FilterRule.Rearranged rules rules') (t : Table) :
    t.ignoreRows rules = t.ignoreRows rules' ∧ t.ignoreColumns rules = t.ignoreColumns rules' := by
  induction h with
  | rel _ _ step =>
    obtain ⟨covered, covered'⟩ := step.covered
    exact ⟨FilterRule.ignoreRows_eq_of_covered covered covered' t,
      FilterRule.ignoreColumns_eq_of_covered covered covered' t⟩
  | refl _ => exact ⟨rfl, rfl⟩
  | symm _ _ _ ih => exact ⟨ih.1.symm, ih.2.symm⟩
  | trans _ _ _ _ _ first second => exact ⟨first.1.trans second.1, first.2.trans second.2⟩

/-- A group that stands twice, once with a repetition in a group of it and once the other way round. -/
theorem ignoreRows_and_ignoreColumns_of_rearranged_nested :
    FilterRule.Rearranged
        [.all [.value .any (.int 1), .all [.position (.int 0), .position (.int 0)]], .value .any .null,
          .all [.all [.position (.int 0)], .value .any (.int 1)]]
        [.all [.value .any (.int 1), .all [.position (.int 0)]], .value .any .null] ∧
      Table.ignoreRows
          [.all [.value .any (.int 1), .all [.position (.int 0), .position (.int 0)]], .value .any .null,
            .all [.all [.position (.int 0)], .value .any (.int 1)]]
          [[.int 1], [.int 1, .int 2], [.null]] =
        [[.int 1, .int 2]] := by
  have inner : FilterRule.Rearranges [.value .any (.int 1), .all [.position (.int 0), .position (.int 0)]]
      [.value .any (.int 1), .all [.position (.int 0)]] :=
    .within [_] [] (.drop [] [_] (List.mem_singleton_self _))
  have order : FilterRule.Rearranges [.all [.position (.int 0)], .value .any (.int 1)]
      [.value .any (.int 1), .all [.position (.int 0)]] :=
    .reorder (List.Perm.swap _ _ _)
  have rearranged : FilterRule.Rearranged
      [.all [.value .any (.int 1), .all [.position (.int 0), .position (.int 0)]], .value .any .null,
        .all [.all [.position (.int 0)], .value .any (.int 1)]]
      [.all [.value .any (.int 1), .all [.position (.int 0)]], .value .any .null] := by
    apply Relation.EqvGen.trans _ _ _ (.rel _ _ (.within [] _ inner))
    apply Relation.EqvGen.trans _ _ _ (.rel _ _ (.within [_, _] [] order))
    exact .rel _ _ (.drop [_, _] [] List.mem_cons_self)
  have same := ignoreRows_and_ignoreColumns_of_rearranged rearranged [[.int 1], [.int 1, .int 2], [.null]]
  exact ⟨rearranged, same.1.trans rfl⟩

end Tabular
