import Tabular.Proofs.Number.Place

/-!
# What position rules leave out

The meaning of the position rules of one list, said without the tests that they are read into: the
numbers in them, alone or listed, each name a position, and the conditions, texts and bare truth
values, have to be met all at once.

* `JointlyApply`: the position rules of a list apply to a position.
* `leavesOut_iff`: the tests say so.
-/

namespace Tabular

/-- A position rule gives a position as a number, alone or in a list. -/
inductive GivesNumber (i : Int) : Cell → Prop where
  | alone {c} : c.number? = some (i : ℚ) → GivesNumber i c
  | listed {cells c} : c ∈ cells → c.number? = some (i : ℚ) → GivesNumber i (.list cells)

/-- A position rule is a condition: a text, or a bare truth value. -/
inductive IsCondition : Cell → Prop where
  | text s : IsCondition (.text s)
  | bool b : IsCondition (.bool b)

/-- A position meets a condition: the text is a comparison that holds. Truth values are never met. -/
inductive MeetsCondition (i : Int) : Cell → Prop where
  | text {s comparison} : Comparison.read? s.toList = some comparison → comparison.holds i = true →
    MeetsCondition i (.text s)

/-- The position rules of a list apply to a position together: one gives its number, or there are
conditions and it meets all of them. -/
def JointlyApply (positions : List Cell) (i : Int) : Prop :=
  (∃ p ∈ positions, GivesNumber i p) ∨
    ((∃ p ∈ positions, IsCondition p) ∧ ∀ p ∈ positions, IsCondition p → MeetsCondition i p)

/-- The test that a text is read into is passed by the positions that meet it as a condition. -/
lemma holds_ofText_iff {s : String} {i : Int} :
    (PositionTest.ofText s).holds i = true ↔ MeetsCondition i (.text s) := by
  constructor
  · intro h
    cases e : Comparison.read? s.toList with
    | none => simp [PositionTest.ofText, e, PositionTest.holds] at h
    | some comparison =>
      simp only [PositionTest.ofText, e, Option.elim_some, PositionTest.holds] at h
      exact .text e h
  · intro h
    cases h with
    | text e hc => simp [PositionTest.ofText, e, PositionTest.holds, hc]

/-- Exactly the conditions are read into tests. -/
lemma positionTest?_isSome_iff {p : Cell} : (positionTest? p).isSome = true ↔ IsCondition p := by
  constructor
  · intro h
    cases p with
    | text s => exact .text s
    | bool b => exact .bool b
    | _ => simp [positionTest?] at h
  · intro h
    cases h <;> rfl

/-- The test of a condition is passed by the positions that meet it. -/
lemma holds_of_positionTest?_iff {p : Cell} {test : PositionTest} {i : Int}
    (h : positionTest? p = some test) : test.holds i = true ↔ MeetsCondition i p := by
  cases p with
  | text s =>
    cases h
    exact holds_ofText_iff
  | bool b =>
    cases h
    constructor <;> (intro h; cases h)
  | _ => simp [positionTest?] at h

/-- The cells that name positions name exactly the numbers given. -/
lemma exists_namedPositions_iff {p : Cell} {i : Int} :
    (∃ c ∈ namedPositions p, namesPosition i c = true) ↔ GivesNumber i p := by
  simp only [namesPosition_iff]
  constructor
  · rintro ⟨c, hc, hn⟩
    cases p with
    | list cells => exact .listed hc hn
    | text s => cases hc
    | bool b => cases hc
    | _ =>
      cases List.mem_singleton.mp hc
      exact .alone hn
  · intro h
    cases h with
    | listed hc hn => exact ⟨_, hc, hn⟩
    | alone hn =>
      cases p with
      | int n => exact ⟨_, List.mem_singleton_self _, hn⟩
      | float x => exact ⟨_, List.mem_singleton_self _, hn⟩
      | _ => simp [Cell.number?] at hn

/-- Position rules leave out the positions that they apply to together. -/
lemma leavesOut_iff {positions : List Cell} {i : Int} :
    leavesOut positions i = true ↔ JointlyApply positions i := by
  have named : (positions.flatMap namedPositions).any (namesPosition i) = true ↔
      ∃ p ∈ positions, GivesNumber i p := by
    simp only [List.any_flatMap, List.any_eq_true, exists_namedPositions_iff]
  have some_test : (!(positions.filterMap positionTest?).isEmpty) = true ↔
      ∃ p ∈ positions, IsCondition p := by
    simp [← positionTest?_isSome_iff, Option.isSome_iff_ne_none]
  have all_hold : (positions.filterMap positionTest?).all (·.holds i) = true ↔
      ∀ p ∈ positions, IsCondition p → MeetsCondition i p := by
    simp only [List.all_eq_true, List.mem_filterMap]
    constructor
    · intro h p hp hc
      obtain ⟨test, e⟩ := Option.isSome_iff_exists.mp (positionTest?_isSome_iff.mpr hc)
      exact (holds_of_positionTest?_iff e).mp (h test ⟨p, hp, e⟩)
    · rintro h test ⟨p, hp, e⟩
      have hc : IsCondition p := positionTest?_isSome_iff.mp (by simp [e])
      exact (holds_of_positionTest?_iff e).mpr (h p hp hc)
  simp only [leavesOut, Bool.or_eq_true, Bool.and_eq_true, named, some_test, all_hold, JointlyApply]

end Tabular
