import Tabular.Proofs.Filter.Columns
import Tabular.Rule.Parser

/-!
# Groups taken member by member

A group is to be met by meeting every member. Its position rules are not asked one by one, though, but
together, and together they apply where one of them gives the number or where all conditions among them
are met. So a column that meets every member of a group on its own is selected by it, but a group with
two position rules, one of them no condition, may also select columns that do not. With a single position
rule, or with conditions only, it makes no difference.

* `MeetsEach`: a group met member by member.
* `Splits`: pooling the position rules does not matter.
* `mem_columnsByGroup_of_meetsEach_and_iff`: the columns of a group against those that meet each member.
-/

namespace Tabular

namespace FilterRule

/-- A column meets a rule on its own, and a group if it meets every member on its own. -/
inductive MeetsEach (t : Table) (column : Nat) : FilterRule → Prop where
  | position {index} : excludes [position index] column = true → MeetsEach t column (position index)
  | value {selector val} : ColumnHoldsAt t selector val column → MeetsEach t column (value selector val)
  | all {rules} : (∀ rule ∈ rules, MeetsEach t column rule) → MeetsEach t column (all rules)

/-- At every depth, the position rules of a group are not more than one, or they are all conditions. -/
inductive Splits : FilterRule → Prop where
  | position index : Splits (position index)
  | value selector val : Splits (value selector val)
  | all {rules} : ((positionRules rules).length ≤ 1 ∨ ∀ p ∈ positionRules rules, IsCondition p) →
    (∀ rule ∈ rules, Splits rule) → Splits (all rules)

end FilterRule

section

variable {positions : List Cell} {p : Cell} {i : Int}

/-- Only conditions are met as conditions. -/
lemma MeetsCondition.isCondition (h : MeetsCondition i p) : IsCondition p := by
  cases h with
  | text _ _ => exact .text _

/-- What gives a position as a number is no condition. -/
lemma GivesNumber.not_isCondition (h : GivesNumber i p) : ¬ IsCondition p := by
  intro hc
  cases hc with
  | text s =>
    cases h with
    | alone hn => cases hn
  | bool b =>
    cases h with
    | alone hn => cases hn

/-- A position rule alone applies by its number or as a condition. -/
lemma jointlyApply_singleton_iff : JointlyApply [p] i ↔ GivesNumber i p ∨ MeetsCondition i p := by
  simp only [JointlyApply, List.mem_singleton, exists_eq_left, forall_eq]
  apply or_congr_right
  constructor
  · rintro ⟨hc, h⟩
    exact h hc
  · intro h
    exact ⟨h.isCondition, fun _ => h⟩

/-- Position rules that apply one by one apply together. -/
lemma jointlyApply_of_forall (hne : positions ≠ []) (h : ∀ p ∈ positions, JointlyApply [p] i) :
    JointlyApply positions i := by
  have each : ∀ p ∈ positions, GivesNumber i p ∨ MeetsCondition i p := fun p hp =>
    jointlyApply_singleton_iff.mp (h p hp)
  by_cases hn : ∃ p ∈ positions, GivesNumber i p
  · exact .inl hn
  · have met : ∀ p ∈ positions, MeetsCondition i p := by
      intro p hp
      apply (each p hp).resolve_left
      intro hg
      exact hn ⟨p, hp, hg⟩
    obtain ⟨p, hp⟩ := List.exists_mem_of_ne_nil positions hne
    exact .inr ⟨⟨p, hp, (met p hp).isCondition⟩, fun p hp _ => met p hp⟩

/-- Where there is one position rule, or conditions only, each of them applies if they do together. -/
lemma JointlyApply.singleton (h : JointlyApply positions i)
    (hsplit : positions.length ≤ 1 ∨ ∀ p ∈ positions, IsCondition p) (hp : p ∈ positions) :
    JointlyApply [p] i := by
  cases hsplit with
  | inl hlen =>
    have hpos : 0 < positions.length := List.length_pos_of_mem hp
    obtain ⟨q, rfl⟩ := List.length_eq_one_iff.mp (Nat.le_antisymm hlen hpos)
    rwa [List.mem_singleton.mp hp]
  | inr hc =>
    cases h with
    | inl hn =>
      obtain ⟨q, hq, hg⟩ := hn
      exact absurd (hc q hq) hg.not_isCondition
    | inr hm => exact jointlyApply_singleton_iff.mpr (.inr (hm.2 p hp (hc p hp)))

end

/-- The position rules of a list are its members of that kind. -/
lemma mem_positionRules_iff {rules : List FilterRule} {index : Cell} :
    index ∈ positionRules rules ↔ .position index ∈ rules := by
  simp only [positionRules, List.mem_filterMap]
  constructor
  · rintro ⟨rule, hrule, e⟩
    cases rule with
    | position other =>
      cases e
      exact hrule
    | value => cases e
    | all => cases e
  · intro h
    exact ⟨_, h, rfl⟩

namespace FilterRule

variable {t : Table} {column : Nat} {rule : FilterRule} {rules : List FilterRule}

/-- A column meets a position rule by itself if the rule alone applies to it. -/
lemma meetsEach_position_iff {index : Cell} :
    MeetsEach t column (position index) ↔ JointlyApply [index] column := by
  rw [← leavesOut_iff]
  constructor
  · intro h
    cases h with
    | position h => exact h
  · exact .position

/-- A column meets a group member by member if it meets each of them so. -/
lemma meetsEach_all_iff : MeetsEach t column (all rules) ↔ ∀ rule ∈ rules, MeetsEach t column rule := by
  constructor
  · intro h
    cases h with
    | all h => exact h
  · exact .all

/-- What a column meets member by member it meets with the position rules pooled. -/
lemma MeetsEach.metByColumn (h : MeetsEach t column rule) (hrule : ∀ index, rule ≠ .position index) :
    MetByColumn t column rule := by
  induction rule using FilterRule.inductionOn with
  | position index => exact absurd rfl (hrule index)
  | value selector val =>
    cases h with
    | value h => exact .value h
  | all rules ih =>
    have each := meetsEach_all_iff.mp h
    apply MetByColumn.all
    · intro hne
      apply jointlyApply_of_forall hne
      intro p hp
      have hp := mem_positionRules_iff.mp hp
      exact meetsEach_position_iff.mp (each _ hp)
    · intro selector val hr
      exact ih _ hr (each _ hr) nofun
    · intro group hr
      exact ih _ hr (each _ hr) nofun

/-- Where pooling does not matter, what a column meets it meets member by member. -/
lemma MetByColumn.meetsEach (met : MetByColumn t column rule) (splits : rule.Splits) :
    MeetsEach t column rule := by
  induction rule using FilterRule.inductionOn with
  | position index => cases met
  | value selector val =>
    cases met with
    | value h => exact .value h
  | all rules ih =>
    cases met with
    | all hp hv hg =>
      cases splits with
      | all hsplit hmembers =>
        apply MeetsEach.all
        intro rule hr
        cases rule with
        | position index =>
          have hindex := mem_positionRules_iff.mpr hr
          have hjoint := hp (List.ne_nil_of_mem hindex)
          exact meetsEach_position_iff.mpr (hjoint.singleton hsplit hindex)
        | value selector val => exact ih _ hr (hv selector val hr) (hmembers _ hr)
        | all group => exact ih _ hr (hg group hr) (hmembers _ hr)

end FilterRule

/-- A group selects the columns that meet every member on its own, and no others if its position rules
can be taken one by one. -/
theorem mem_columnsByGroup_of_meetsEach_and_iff (t : Table) (group : List FilterRule) :
    (∀ column < t.width, (∀ rule ∈ group, FilterRule.MeetsEach t column rule) →
      column ∈ t.columnsByGroup group) ∧
    ((FilterRule.all group).Splits → ∀ column,
      column ∈ t.columnsByGroup group ↔
        column < t.width ∧ ∀ rule ∈ group, FilterRule.MeetsEach t column rule) := by
  have selected : ∀ column < t.width, (∀ rule ∈ group, FilterRule.MeetsEach t column rule) →
      column ∈ t.columnsByGroup group := by
    intro column hw each
    have met := (FilterRule.MeetsEach.all each).metByColumn nofun
    exact FilterRule.mem_columnsByGroup_iff.mpr ⟨hw, met⟩
  refine ⟨selected, fun splits column => ⟨?_, ?_⟩⟩
  · intro h
    obtain ⟨hw, met⟩ := FilterRule.mem_columnsByGroup_iff.mp h
    exact ⟨hw, FilterRule.meetsEach_all_iff.mp (met.meetsEach splits)⟩
  · rintro ⟨hw, each⟩
    exact selected column hw each

/-- Two conditions and a group that looks for a value in the second row. -/
theorem mem_columnsByGroup_of_meetsEach_and_iff_nested :
    (FilterRule.all [.position (.text ">=1"), .position (.text "<3"), .all [.value (.only [.int 1]) .null]]).Splits ∧
    ∀ rule ∈ [.position (.text ">=1"), .position (.text "<3"), .all [.value (.only [.int 1]) .null]],
      FilterRule.MeetsEach [[.int 0], [.null, .int 1, .null, .null]] 2 rule := by
  have splits : (FilterRule.all
      [.position (.text ">=1"), .position (.text "<3"), .all [.value (.only [.int 1]) .null]]).Splits := by
    apply FilterRule.Splits.all
    · right
      intro p hp
      rcases List.mem_cons.mp hp with rfl | hp
      · exact .text _
      · rcases List.mem_singleton.mp hp with rfl
        exact .text _
    · simp only [List.forall_mem_cons]
      refine ⟨.position _, .position _, ?_, nofun⟩
      exact .all (.inl (Nat.zero_le _)) (List.forall_mem_singleton.mpr (.value _ _))
  have h := (mem_columnsByGroup_of_meetsEach_and_iff [[.int 0], [.null, .int 1, .null, .null]]
    [.position (.text ">=1"), .position (.text "<3"), .all [.value (.only [.int 1]) .null]]).2 splits 2
  exact ⟨splits, (h.mp (by decide)).2⟩

/-- A group of two numbers selects both columns, though no column meets both members. -/
theorem columnsByGroup_two_numbers :
    FilterRule.parse "row" "ignoreColIf" (.list [.record [("allOf", .list
        [.record [("index", .int 0)], .record [("index", .int 1)]])]]) =
      .ok [.all [.position (.int 0), .position (.int 1)]] ∧
    Table.columnsByGroup [.position (.int 0), .position (.int 1)] [[.text "a", .text "b"]] = [0, 1] ∧
    ∀ column, ¬ ∀ rule ∈ [FilterRule.position (.int 0), .position (.int 1)],
      FilterRule.MeetsEach [[.text "a", .text "b"]] column rule := by
  refine ⟨rfl, rfl, fun column each => ?_⟩
  have number : ∀ n : Int, FilterRule.MeetsEach [[.text "a", .text "b"]] column (.position (.int n)) →
      n = column := by
    intro n h
    cases jointlyApply_singleton_iff.mp (FilterRule.meetsEach_position_iff.mp h) with
    | inl hg =>
      cases hg with
      | alone hn => exact_mod_cast Option.some.inj hn
    | inr hm => cases hm
  have first := number 0 (each _ List.mem_cons_self)
  have second := number 1 (each _ (List.mem_cons_of_mem _ List.mem_cons_self))
  have e := first.trans second.symm
  cases e

end Tabular
