import Tabular.Filter.Rows
import Tabular.Proofs.Cell.Induction
import Tabular.Proofs.Filter.Position

/-!
# What row rules leave out

The meaning of rules on a row, said without votes: a value rule is met by a value at a selected
position, a group by its position rules alone if it has any, and else by meeting all its members
(`FilterRule.MetByRow`).

* `FilterRule.vote?_eq_false_iff`: the rules that vote against a row are the ones that it meets.
* `FilterRule.keepsAsList_iff`: a list keeps a row exactly if the row meets none of its rules and its position
  rules do not apply.
* `FilterRule.keepsAsGroup_iff`, `Table.getElem?_keptRows_eq_some_false_iff`: the same for a group, and for all
  rows of a table at once.
* `Quorum.decisions_concat`: how one more vote changes a decision.
-/

namespace Tabular

namespace Quorum

variable {votes : List Bool} {vote : Bool}

/-- One vote against is enough where all have to be for it. -/
lemma decide_unanimous_iff : unanimous.decide votes = true ↔ false ∉ votes := by
  rw [decide, List.contains_eq_mem, Bool.not_eq_true', decide_eq_false_iff_not]

/-- One vote for it is enough elsewhere. -/
lemma decide_single_iff : single.decide votes = true ↔ true ∈ votes := by
  rw [decide, List.contains_eq_mem, decide_eq_true_iff]

/-- A vote tells in the one quorum if it is against, in the other one if it is for. -/
lemma decide_concat (q : Quorum) : q.decide (votes ++ [vote]) =
    match q with
    | unanimous => q.decide votes && vote
    | single => q.decide votes || vote := by
  rw [Bool.eq_iff_iff]
  cases q with
  | unanimous =>
    rw [Bool.and_eq_true, decide_unanimous_iff, decide_unanimous_iff, List.mem_append, List.mem_singleton, not_or]
    cases vote <;> simp
  | single =>
    rw [Bool.or_eq_true, decide_single_iff, decide_single_iff, List.mem_append, List.mem_singleton, eq_comm]

/-- Each vote adds one decision to those before it, which stay as they are. -/
lemma decisions_concat (q : Quorum) : q.decisions (votes ++ [vote]) = q.decisions votes ++
    [match q with
      | unanimous => q.decide votes && vote
      | single => q.decide votes || vote] := by
  have htake : ∀ n ∈ List.range (votes.length + 1),
      q.decide ((votes ++ [vote]).take n) = q.decide (votes.take n) := by
    intro n hn
    rw [List.take_append_of_le_length (Nat.le_of_lt_succ (List.mem_range.mp hn))]
  have hlast : (votes ++ [vote]).take (votes.length + 1) = votes ++ [vote] := List.take_of_length_le (by simp)
  rw [← decide_concat, decisions, decisions, List.length_append, List.length_singleton, List.range_succ,
    List.map_append, List.map_congr_left htake, List.map_singleton, hlast]

end Quorum

/-- A selector includes a position: it is `any`, or the position is listed as a whole number. -/
inductive Selector.Includes (p : Nat) : Selector → Prop where
  | any : Includes p .any
  | listed {indices} : Cell.int p ∈ indices → Includes p (.only indices)

/-- A row has a cell that equals a value at a position that a selector includes. -/
def HoldsAt (selector : Selector) (val : Cell) (row : Row) : Prop :=
  ∃ p c, row[p]? = some c ∧ selector.Includes p ∧ c.strictlyEqual val = true

/-- The positions picked from a line are those listed as whole numbers that the line has. -/
lemma Selector.mem_inBounds_iff {indices : List Cell} {length p : Nat} :
    p ∈ inBounds indices length ↔ Cell.int p ∈ indices ∧ p < length := by
  simp only [inBounds, List.mem_filterMap]
  constructor
  · rintro ⟨c, hc, e⟩
    cases c with
    | int n =>
      by_cases h : 0 ≤ n ∧ n < length
      · simp only [h, and_self, if_true, Option.some.injEq] at e
        have hn : n = p := by omega
        exact ⟨hn ▸ hc, by omega⟩
      · simp [h] at e
    | _ => simp at e
  · rintro ⟨hc, hp⟩
    exact ⟨_, hc, by simp [hp]⟩

/-- The elements picked from a line are those at the positions that a selector includes. -/
lemma Selector.mem_pick_iff {α : Type} {selector : Selector} {elements : List α} {a : α} :
    a ∈ selector.pick elements ↔ ∃ p, elements[p]? = some a ∧ selector.Includes p := by
  cases selector with
  | any =>
    simp only [pick, List.mem_iff_getElem?]
    constructor
    · rintro ⟨p, e⟩
      exact ⟨p, e, .any⟩
    · rintro ⟨p, e, -⟩
      exact ⟨p, e⟩
  | only indices =>
    simp only [pick, List.mem_filterMap, mem_inBounds_iff]
    constructor
    · rintro ⟨p, ⟨hp, -⟩, e⟩
      exact ⟨p, e, .listed hp⟩
    · rintro ⟨p, e, hp⟩
      cases hp with
      | listed hp => exact ⟨p, ⟨hp, (List.getElem?_eq_some_iff.mp e).1⟩, e⟩

/-- The search for a value among the picked cells of a row finds what is there. -/
lemma holdsValue_iff {selector : Selector} {val : Cell} {row : Row} :
    holdsValue selector val row = true ↔ HoldsAt selector val row := by
  simp only [holdsValue, List.any_eq_true, Selector.mem_pick_iff, HoldsAt]
  constructor
  · rintro ⟨c, ⟨p, e, hp⟩, hc⟩
    exact ⟨p, c, e, hp, hc⟩
  · rintro ⟨p, c, e, hp, hc⟩
    exact ⟨c, ⟨p, e, hp⟩, hc⟩

namespace FilterRule

/-- A row meets a value rule or a group. Position rules are not met one by one. -/
inductive MetByRow (row : Row) (i : Nat) : FilterRule → Prop where
  | value {selector val} : HoldsAt selector val row → MetByRow row i (value selector val)
  | positions {rules} : positionRules rules ≠ [] → JointlyApply (positionRules rules) i →
    MetByRow row i (all rules)
  | members {rules} : positionRules rules = [] → (∀ rule ∈ rules, MetByRow row i rule) →
    MetByRow row i (all rules)

/-- The votes of a list are those of its members that vote. -/
lemma votes_eq_filterMap (row : Row) (i : Nat) (rules : List FilterRule) :
    votes row i rules = rules.filterMap (vote? row i) := by
  induction rules with
  | nil => rfl
  | cons rule rules ih =>
    rw [votes, ih, List.filterMap_cons]
    cases vote? row i rule <;> rfl

/-- Only position rules have no vote. -/
lemma vote?_eq_none_iff {row : Row} {i : Nat} {rule : FilterRule} :
    vote? row i rule = none ↔ ∃ index, rule = position index := by
  cases rule <;> simp [vote?]

/-- A list has no position rules if none of its members is one. -/
lemma positionRules_eq_nil_iff {rules : List FilterRule} :
    positionRules rules = [] ↔ ∀ rule ∈ rules, ∀ index, rule ≠ position index := by
  simp only [positionRules, List.filterMap_eq_nil_iff]
  constructor
  · rintro h rule hr index rfl
    simpa using h _ hr
  · intro h rule hr
    cases rule with
    | position index => exact absurd rfl (h _ hr index)
    | _ => rfl

/-- The vote against a row is that of a rule that the row meets. -/
lemma vote?_eq_false_iff {row : Row} {i : Nat} (rule : FilterRule) :
    vote? row i rule = some false ↔ MetByRow row i rule := by
  induction rule using FilterRule.inductionOn with
  | position index =>
    constructor
    · intro h
      cases h
    · intro h
      cases h
  | value selector val =>
    simp only [vote?, Option.some.injEq, Bool.not_eq_false', holdsValue_iff]
    exact ⟨.value, fun | .value h => h⟩
  | all rules ih =>
    -- Without position rules a single vote for the row decides; with them no other rule is asked.
    by_cases hp : positionRules rules = []
    · have hvotes : vote? row i (all rules) = some (Quorum.single.decide (votes row i rules)) := by
        simp [vote?, hp]
      rw [hvotes, Option.some.injEq, ← Bool.not_eq_true, Quorum.decide_single_iff, votes_eq_filterMap,
        List.mem_filterMap]
      constructor
      · intro h
        refine .members hp fun rule hr => (ih rule hr).mp ?_
        cases e : vote? row i rule with
        | none =>
          obtain ⟨index, rfl⟩ := vote?_eq_none_iff.mp e
          exact absurd rfl (positionRules_eq_nil_iff.mp hp _ hr index)
        | some b =>
          cases b with
          | false => rfl
          | true => exact absurd ⟨rule, hr, e⟩ h
      · intro h
        cases h with
        | positions hne => exact absurd hp hne
        | members _ hall =>
          rintro ⟨rule, hr, e⟩
          rw [(ih rule hr).mpr (hall rule hr)] at e
          cases e
    · have hvotes : vote? row i (all rules) = some (!excludes rules i) := by
        simp [vote?, hp]
      rw [hvotes, Option.some.injEq, Bool.not_eq_false', excludes, leavesOut_iff]
      constructor
      · exact .positions hp
      · intro h
        cases h with
        | positions _ ha => exact ha
        | members hnil => exact absurd hnil hp

/-- A list of rules keeps a row if its position rules do not apply and no other rule is met. -/
lemma keepsAsList_iff {row : Row} {i : Nat} {rules : List FilterRule} :
    keepsAsList row i rules = true ↔
      ¬ (JointlyApply (positionRules rules) i ∨ ∃ rule ∈ rules, MetByRow row i rule) := by
  have unanimous : Quorum.unanimous.decide (votes row i rules) = true ↔
      ¬ ∃ rule ∈ rules, MetByRow row i rule := by
    rw [Quorum.decide_unanimous_iff, votes_eq_filterMap, List.mem_filterMap]
    simp only [vote?_eq_false_iff]
  rw [keepsAsList, Bool.and_eq_true, Bool.not_eq_true', unanimous, not_or, ← leavesOut_iff, excludes,
    Bool.not_eq_true]

/-- A group keeps a row that does not meet it. -/
lemma keepsAsGroup_iff {row : Row} {i : Nat} {rules : List FilterRule} :
    keepsAsGroup row i rules = true ↔ ¬ MetByRow row i (all rules) := by
  rw [← vote?_eq_false_iff, keepsAsGroup]
  cases hvote : vote? row i (all rules) with
  | none => exact ⟨fun _ => nofun, fun _ => rfl⟩
  | some vote => simp

end FilterRule

/-- Of the rows of a table, a list of rules does not keep those that meet one of its rules or to which its
position rules apply, and a group does not keep those that meet it. -/
lemma Table.getElem?_keptRows_eq_some_false_iff {t : Table} {q : Quorum} {rules : List FilterRule} {i : Nat} :
    (t.keptRows q rules)[i]? = some false ↔ ∃ row, t[i]? = some row ∧
      match q with
      | .unanimous => JointlyApply (positionRules rules) i ∨ ∃ rule ∈ rules, FilterRule.MetByRow row i rule
      | .single => FilterRule.MetByRow row i (.all rules) := by
  have hkeeps : ∀ row, FilterRule.keeps q row i rules = false ↔
      match q with
      | .unanimous => JointlyApply (positionRules rules) i ∨ ∃ rule ∈ rules, FilterRule.MetByRow row i rule
      | .single => FilterRule.MetByRow row i (.all rules) := by
    intro row
    rw [← Bool.not_eq_true]
    cases q with
    | unanimous => exact (not_congr FilterRule.keepsAsList_iff).trans not_not
    | single => exact (not_congr FilterRule.keepsAsGroup_iff).trans not_not
  rw [keptRows, List.getElem?_map, List.getElem?_zipIdx, Option.map_map, Option.map_eq_some_iff]
  refine exists_congr fun row => and_congr_right fun _ => ?_
  rw [← hkeeps row]
  simp

end Tabular
