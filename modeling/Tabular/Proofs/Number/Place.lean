import Mathlib.Algebra.Order.Field.Power
import Mathlib.Data.Rat.Cast.Order
import Mathlib.Tactic.Lemma
import Tabular.Filter.Position

/-!
# Places as rational numbers

Places are compared through coefficients under a common exponent. Here each finite place gets its
rational number, and the comparison becomes that of the numbers.

* `Cell.number?`: the rational number of a cell.
* `Place.same_finite_iff`, `Place.before_finite_iff`: places are compared as their numbers.
-/

namespace Tabular

/-- The rational number at a place, unless the place is infinite. -/
def Place.value? : Place → Option ℚ
  | .finite c e => some (c * 2 ^ e)
  | _ => none

/-- The number that a cell is; a truth value is none. -/
def Cell.number? : Cell → Option ℚ
  | .int n => some n
  | .float x => x.place?.bind Place.value?
  | _ => none

/-- A smaller exponent with more digits is the same number. -/
lemma Place.rescale_mul {c e l : Int} (h : l ≤ e) : (rescale c e l : ℚ) * 2 ^ l = c * 2 ^ e := by
  have he : e = ((e - l).toNat : Int) + l := by omega
  have hp : (2 : ℚ) ^ e = 2 ^ (e - l).toNat * 2 ^ l := by
    conv_lhs => rw [he]
    rw [zpow_add₀ (by norm_num), zpow_natCast]
  rw [hp, rescale, Nat.pow_eq]
  push_cast
  rw [mul_assoc]

/-- Finite places are the same if their numbers are equal. -/
lemma Place.same_finite_iff {c e d f : Int} :
    (finite c e).same (finite d f) = true ↔ (c : ℚ) * 2 ^ e = d * 2 ^ f := by
  have hpos : (0 : ℚ) < 2 ^ min e f := by positivity
  rw [← rescale_mul (min_le_left e f), ← rescale_mul (min_le_right e f)]
  simp only [same, beq_iff_eq, mul_left_inj' hpos.ne', Int.cast_inj]

/-- A finite place is before another if its number is less. -/
lemma Place.before_finite_iff {c e d f : Int} :
    (finite c e).before (finite d f) = true ↔ (c : ℚ) * 2 ^ e < d * 2 ^ f := by
  have hpos : (0 : ℚ) < 2 ^ min e f := by positivity
  rw [← rescale_mul (min_le_left e f), ← rescale_mul (min_le_right e f)]
  simp only [before, decide_eq_true_eq, mul_lt_mul_iff_left₀ hpos, Int.cast_lt]

/-- A cell names a position if it is a number of the same value. -/
lemma namesPosition_iff {c : Cell} {i : Int} :
    namesPosition i c = true ↔ c.number? = some (i : ℚ) := by
  cases c with
  | int n =>
    simp [namesPosition, Cell.looselyEqual, Cell.samePlace, Cell.place?, Cell.number?, Place.ofInt,
      Place.same_finite_iff]
  | float x =>
    cases x with
    | nan =>
      simp [namesPosition, Cell.looselyEqual, Cell.samePlace, Cell.place?, Cell.number?,
        Binary64.place?]
    | infinity negative =>
      cases negative <;>
        simp [namesPosition, Cell.looselyEqual, Cell.samePlace, Cell.place?, Cell.number?,
          Binary64.place?, Place.same, Place.ofInt, Place.value?]
    | finite negative mantissa exponent _ =>
      simp [namesPosition, Cell.looselyEqual, Cell.samePlace, Cell.place?, Cell.number?,
        Binary64.place?, Place.ofInt, Place.value?, Place.same_finite_iff]
  | _ => simp [namesPosition, Cell.looselyEqual, Cell.samePlace, Cell.place?, Cell.number?]

end Tabular
