import Mathlib.Algebra.Order.Field.Power
import Mathlib.Tactic.Lemma
import Mathlib.Tactic.NormNum
import Mathlib.Tactic.Positivity
import Mathlib.Tactic.Ring
import Tabular.Proofs.Number.Place

/-!
# Rounding what is representable

A quotient that a floating point number represents is rounded to this number, since it is tried with the
exponent of its canonical form, where no remainder is left. So every decimal number that is representable is
read as it is, and all whole numbers up to the end of the mantissas are.

* `ofRatio_eq_finite`: a quotient that is representable is rounded to itself.
* `ofDecimal_eq_finite`: so is a decimal.
* `exists_place_of_value`: whole numbers of at most 53 binary digits keep their value.
-/

namespace Tabular

/-- The rational number that a decimal number is. -/
def Decimal.value (x : Decimal) : ℚ :=
  (if x.negative then -1 else 1) * (x.digits * 10 ^ x.exponent)

namespace Binary64

variable {m n d : Nat} {e k : Int} {negative : Bool} {q : ℚ} {x : Decimal}

/-- A power with a negative exponent becomes one by the power that takes the sign away. -/
lemma zpow_mul_pow_toNat {b : ℚ} (hb : b ≠ 0) (k : Int) : b ^ k * b ^ (-k).toNat = b ^ k.toNat := by
  rw [← zpow_natCast, ← zpow_natCast, ← zpow_add₀ hb]
  congr 1
  omega

/-- A quotient without remainder is not rounded. -/
lemma roundHalfEven_mul (m : Nat) (hd : 0 < d) : roundHalfEven (m * d) d = m := by
  have hzero : 2 * (m * d % d) < d := by rwa [Nat.mul_mod_left]
  rw [roundHalfEven, if_pos hzero, Nat.mul_div_cancel m hd]

/-- In units that go into a quotient, no remainder is left. -/
lemma inUnits_of_eq (hn : (n : ℚ) = m * 2 ^ k * d) : (inUnits n d k).1 = m * (inUnits n d k).2 := by
  have hunits : (n * 2 ^ (-k).toNat : ℚ) = m * (d * 2 ^ k.toNat) := by
    rw [hn, ← zpow_mul_pow_toNat two_ne_zero k]
    ring
  exact_mod_cast hunits

/-- The denominator stays positive in every unit. -/
lemma inUnits_pos (hd : 0 < d) : 0 < (inUnits n d k).2 :=
  Nat.mul_pos hd (Nat.pow_pos Nat.two_pos)

/-- The lengths of numerator and denominator enclose a quotient. -/
lemma log2_lt (hq : 0 < q) (hd : 0 < d) (hn : (n : ℚ) = q * d) :
    (2 : ℚ) ^ ((n.log2 : Int) - d.log2 - 1) < q ∧ q < 2 ^ ((n.log2 : Int) - d.log2 + 1) := by
  have hdq : (0 : ℚ) < d := by exact_mod_cast hd
  have hn0 : n ≠ 0 := by
    rintro rfl
    exact absurd hn (by positivity)
  have hnle : (2 : ℚ) ^ n.log2 ≤ n := by exact_mod_cast Nat.log2_self_le hn0
  have hnlt : (n : ℚ) < 2 ^ (n.log2 + 1) := by exact_mod_cast Nat.lt_log2_self
  have hdle : (2 : ℚ) ^ d.log2 ≤ d := by exact_mod_cast Nat.log2_self_le hd.ne'
  have hdlt : (d : ℚ) < 2 ^ (d.log2 + 1) := by exact_mod_cast Nat.lt_log2_self
  constructor
  · have hpow : (2 : ℚ) ^ ((n.log2 : Int) - d.log2 - 1) = 2 ^ n.log2 / 2 ^ (d.log2 + 1) := by
      rw [← zpow_natCast, ← zpow_natCast, ← zpow_sub₀ two_ne_zero]
      congr 1
      omega
    rw [hpow, div_lt_iff₀ (by positivity)]
    calc (2 : ℚ) ^ n.log2 ≤ q * d := hn ▸ hnle
      _ < q * 2 ^ (d.log2 + 1) := mul_lt_mul_of_pos_left hdlt hq
  · have hpow : (2 : ℚ) ^ ((n.log2 : Int) - d.log2 + 1) = 2 ^ (n.log2 + 1) / 2 ^ d.log2 := by
      rw [← zpow_natCast, ← zpow_natCast, ← zpow_sub₀ two_ne_zero]
      congr 1
      omega
    rw [hpow, lt_div_iff₀ (by positivity)]
    calc q * 2 ^ d.log2 ≤ q * d := mul_le_mul_of_nonneg_left hdle hq.le
      _ < 2 ^ (n.log2 + 1) := hn ▸ hnlt

/-- The exponent of a representable quotient is that of its canonical form. -/
lemma quotientExponent_eq (h : Canonical m e) (hm : 0 < m) (hd : 0 < d) (hn : (n : ℚ) = m * 2 ^ e * d) :
    quotientExponent n d = e := by
  obtain ⟨hbound, hleast, -, hnormal⟩ := h
  have hboundq : (m : ℚ) < 2 ^ (53 : Int) := by exact_mod_cast hbound
  have hmq : (0 : ℚ) < m := by exact_mod_cast hm
  have hpow : (0 : ℚ) < 2 ^ e := by positivity
  obtain ⟨hlow, hhigh⟩ := log2_lt (mul_pos hmq hpow) hd hn
  have htwo : (1 : ℚ) < 2 := one_lt_two
  have hle : (n.log2 : Int) - d.log2 - 53 ≤ e := by
    have hlt := hlow.trans (mul_lt_mul_of_pos_right hboundq hpow)
    rw [← zpow_add₀ two_ne_zero, zpow_lt_zpow_iff_right₀ htwo] at hlt
    omega
  have hge : leastNormal ≤ m → e - 1 ≤ (n.log2 : Int) - d.log2 - 53 := by
    intro hlong
    have hlongq : (2 : ℚ) ^ (52 : Int) ≤ m := by exact_mod_cast hlong
    have hlt := (mul_le_mul_of_nonneg_right hlongq hpow.le).trans_lt hhigh
    rw [← zpow_add₀ two_ne_zero, zpow_lt_zpow_iff_right₀ htwo] at hlt
    omega
  -- What is tried first is the exponent itself, or the one below it if the mantissa is a long one.
  have htried : max leastExponent ((n.log2 : Int) - d.log2 - 53) = e ∨
      leastNormal ≤ m ∧ max leastExponent ((n.log2 : Int) - d.log2 - 53) = e - 1 := by
    rcases hnormal with hlong | rfl
    · have := hge hlong
      omega
    · exact .inl (max_eq_left hle)
  rcases htried with hk | ⟨hlong, hk⟩
  · rw [quotientExponent, hk]
    dsimp only
    rw [inUnits_of_eq hn, Nat.mul_div_cancel m (inUnits_pos hd), if_neg (Nat.not_le.mpr hbound)]
  · have hdouble : (n : ℚ) = (2 * m : Nat) * 2 ^ (e - 1) * d := by
      rw [hn, zpow_sub_one₀ two_ne_zero]
      push_cast
      ring
    have hoverflow : mantissaBound ≤ 2 * m := Nat.mul_le_mul_left 2 hlong
    rw [quotientExponent, hk]
    dsimp only
    rw [inUnits_of_eq hdouble, Nat.mul_div_cancel _ (inUnits_pos hd), if_pos hoverflow, Int.sub_add_cancel]

/-- A representable quotient is rounded to the number that represents it. -/
lemma ofRatio_eq_finite (h : Canonical m e) (hm : 0 < m) (hd : 0 < d) (hn : (n : ℚ) = m * 2 ^ e * d) :
    ofRatio negative n d = .finite negative m e h := by
  have hn0 : n ≠ 0 := by
    rintro rfl
    have hmq : (0 : ℚ) < m := by exact_mod_cast hm
    have hdq : (0 : ℚ) < d := by exact_mod_cast hd
    exact absurd hn (by positivity)
  rw [ofRatio, if_neg hn0, quotientExponent_eq h hm hd hn]
  dsimp only
  rw [inUnits_of_eq hn, roundHalfEven_mul m (inUnits_pos hd), if_neg (Nat.ne_of_lt h.1), pack, dif_pos h]

/-- The range of the positive floating point numbers. -/
lemma range_of_canonical (h : Canonical m e) (hm : 0 < m) :
    (2 : ℚ) ^ (-1074 : Int) ≤ m * 2 ^ e ∧ (m * 2 ^ e : ℚ) < 2 ^ (1024 : Int) := by
  obtain ⟨hbound, hleast, hgreatest, -⟩ := h
  have hboundq : (m : ℚ) < 2 ^ (53 : Int) := by exact_mod_cast hbound
  have hmq : (1 : ℚ) ≤ m := by exact_mod_cast hm
  have hpow : (0 : ℚ) < 2 ^ e := by positivity
  constructor
  · exact (zpow_le_zpow_right₀ one_le_two hleast).trans (le_mul_of_one_le_left hpow.le hmq)
  · calc (m * 2 ^ e : ℚ) < 2 ^ (53 : Int) * 2 ^ (971 : Int) :=
          mul_lt_mul hboundq (zpow_le_zpow_right₀ one_le_two hgreatest) hpow (by positivity)
      _ = 2 ^ (1024 : Int) := (zpow_add₀ two_ne_zero 53 971).symm

/-- A factor of ten is more than three factors of two. -/
lemma two_pow_le_ten_pow (k : Nat) : (2 : ℚ) ^ (3 * k) ≤ 10 ^ k := by
  rw [pow_mul]
  exact pow_le_pow_left₀ (by norm_num) (by norm_num) k

/-- A decimal that does not overflow has no exponent above the guard. -/
lemma exponent_le_guard (hx : (x.digits : ℚ) * 10 ^ x.exponent < 2 ^ (1024 : Int)) (hdigits : x.digits ≠ 0) :
    x.exponent ≤ exponentGuard := by
  by_contra hlarge
  rw [exponentGuard, not_le] at hlarge
  obtain ⟨k, hk⟩ := Int.eq_ofNat_of_zero_le (show 0 ≤ x.exponent by omega)
  rw [hk, zpow_natCast] at hx
  have hdigitsq : (1 : ℚ) ≤ x.digits := Nat.one_le_cast.mpr (Nat.one_le_iff_ne_zero.mpr hdigits)
  have hpower : (2 : ℚ) ^ (3 * k) < 2 ^ (1024 : Int) :=
    ((two_pow_le_ten_pow k).trans (le_mul_of_one_le_left (by positivity) hdigitsq)).trans_lt hx
  rw [← zpow_natCast, zpow_lt_zpow_iff_right₀ one_lt_two] at hpower
  omega

/-- A decimal that does not vanish has no exponent below the guard, the length of its digits counted in. -/
lemma guard_le_exponent_add_log2 (hx : (2 : ℚ) ^ (-1074 : Int) ≤ x.digits * 10 ^ x.exponent) :
    -exponentGuard ≤ x.exponent + x.digits.log2 := by
  by_contra hsmall
  rw [exponentGuard, not_le] at hsmall
  obtain ⟨k, hk⟩ : ∃ k : Nat, x.exponent = -k := ⟨(-x.exponent).toNat, by omega⟩
  rw [hk, zpow_neg (10 : ℚ), zpow_natCast] at hx
  have hdigits : (x.digits : ℚ) < 2 ^ (x.digits.log2 + 1) := by exact_mod_cast Nat.lt_log2_self
  have hpower : (2 : ℚ) ^ (-1074 : Int) < 2 ^ (x.digits.log2 + 1) * (2 ^ (3 * k))⁻¹ := by
    refine hx.trans_lt (mul_lt_mul hdigits (inv_anti₀ (by positivity) (two_pow_le_ten_pow k)) ?_ ?_)
    · positivity
    · positivity
  rw [← zpow_natCast, ← zpow_natCast, ← zpow_neg, ← zpow_add₀ two_ne_zero,
    zpow_lt_zpow_iff_right₀ one_lt_two] at hpower
  omega

/-- A representable decimal number is read as the floating point number that represents it. -/
lemma ofDecimal_eq_finite (h : Canonical m e) (hm : 0 < m)
    (hx : (x.digits : ℚ) * 10 ^ x.exponent = m * 2 ^ e) : ofDecimal x = .finite x.negative m e h := by
  have hdigits : x.digits ≠ 0 := by
    intro hzero
    have hmq : (0 : ℚ) < m := by exact_mod_cast hm
    rw [hzero, Nat.cast_zero, zero_mul] at hx
    exact absurd hx (by positivity)
  obtain ⟨hlow, hhigh⟩ := range_of_canonical h hm
  have hlarge := exponent_le_guard (hx ▸ hhigh) hdigits
  have hsmall := guard_le_exponent_add_log2 (hx ▸ hlow)
  rw [ofDecimal, if_neg hdigits, if_neg (Int.not_lt.mpr hlarge), if_neg (Int.not_lt.mpr hsmall)]
  refine ofRatio_eq_finite h hm (Nat.pow_pos (Nat.succ_pos 9)) ?_
  have hpow := zpow_mul_pow_toNat (show (10 : ℚ) ≠ 0 by norm_num) x.exponent
  rw [← hx, mul_assoc]
  push_cast [Nat.pow_eq]
  rw [hpow]

/-- A whole number up to the end of the mantissas has a canonical form. -/
lemma exists_canonical (hn : 0 < n) (h : n ≤ mantissaBound) : ∃ m e, Canonical m e ∧ 0 < m ∧ (n : ℚ) = m * 2 ^ e := by
  rcases Nat.eq_or_lt_of_le h with rfl | hlt
  · refine ⟨leastNormal, 1, by decide, by decide, ?_⟩
    norm_num [mantissaBound, leastNormal]
  · have hlog : n.log2 ≤ 52 := Nat.le_of_lt_succ ((Nat.log2_lt hn.ne').mpr hlt)
    obtain ⟨k, hk⟩ := Nat.exists_eq_add_of_le hlog
    have hlow : 2 ^ n.log2 ≤ n := Nat.log2_self_le hn.ne'
    have hhigh : n < 2 ^ (n.log2 + 1) := Nat.lt_log2_self
    refine ⟨n * 2 ^ k, -k, ⟨?_, ?_, ?_, .inl ?_⟩, by positivity, ?_⟩
    · calc n * 2 ^ k < 2 ^ (n.log2 + 1) * 2 ^ k := Nat.mul_lt_mul_of_pos_right hhigh (by positivity)
        _ = mantissaBound := by
          rw [← Nat.pow_add, Nat.add_right_comm, ← hk]
          rfl
    · rw [leastExponent]
      omega
    · rw [greatestExponent]
      omega
    · calc leastNormal = 2 ^ n.log2 * 2 ^ k := by
            rw [← Nat.pow_add, ← hk]
            rfl
        _ ≤ n * 2 ^ k := Nat.mul_le_mul_right _ hlow
    · rw [Nat.cast_mul, Nat.cast_pow, Nat.cast_two, mul_assoc, zpow_neg, zpow_natCast,
        mul_inv_cancel₀ (by positivity), mul_one]

/-- Whole numbers up to the end of the mantissas are read as they are, in whatever form they are written. -/
lemma exists_place_of_value {i : Int} (hx : x.value = i) (hi : i.natAbs ≤ mantissaBound) :
    ∃ p, (ofDecimal x).place? = some p ∧ p.value? = some (i : ℚ) := by
  by_cases hdigits : x.digits = 0
  · have hzero : (i : ℚ) = 0 := by
      rw [← hx, Decimal.value, hdigits, Nat.cast_zero, zero_mul, mul_zero]
    refine ⟨_, by rw [ofDecimal, if_pos hdigits]; rfl, ?_⟩
    cases x.negative <;> simp [Place.value?, hzero]
  · have habs : (i.natAbs : ℚ) = x.digits * 10 ^ x.exponent := by
      have hpos : (0 : ℚ) ≤ x.digits * 10 ^ x.exponent := by positivity
      rw [Nat.cast_natAbs, Int.cast_abs, ← hx, Decimal.value, abs_mul, abs_of_nonneg hpos]
      cases x.negative <;> simp
    have hpos : 0 < i.natAbs := by
      have hdigitsq : (x.digits : ℚ) ≠ 0 := by exact_mod_cast hdigits
      rw [Nat.pos_iff_ne_zero, ← Nat.cast_ne_zero (R := ℚ), habs]
      positivity
    obtain ⟨m, e, h, hm, hn⟩ := exists_canonical hpos hi
    refine ⟨_, by rw [ofDecimal_eq_finite h hm (habs.symm.trans hn)]; rfl, ?_⟩
    rw [Place.value?, ← hx, Decimal.value, ← habs, hn]
    cases x.negative <;> simp

/-- No decimal number is read as the undefined number. -/
lemma exists_place (x : Decimal) : ∃ p, (ofDecimal x).place? = some p := by
  have hpack : ∀ negative m e, ∃ p, (pack negative m e).place? = some p := by
    intro negative m e
    unfold pack
    split <;> exact ⟨_, rfl⟩
  unfold ofDecimal
  split
  · exact ⟨_, rfl⟩
  · split
    · exact ⟨_, rfl⟩
    · split
      · exact ⟨_, rfl⟩
      · unfold ofRatio
        split
        · exact ⟨_, rfl⟩
        · dsimp only
          split <;> exact hpack _ _ _

end Binary64

end Tabular
