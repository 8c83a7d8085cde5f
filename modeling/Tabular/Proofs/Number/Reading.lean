import Tabular.Proofs.Cell.Writable
import Tabular.Proofs.Number.Numeral
import Tabular.Proofs.Number.Place

/-!
# Texts that are read as numbers

Numerals are read as whole numbers, unless they are too long. Any other text is read as a number with a
fractional part of which it is the written form, or not at all. So each number that is read is written as the
text that it was read from.

* `interpretNumber_cases`: what can become of a text.
* `interpretNumber_eq_int_iff_and_display`: which texts become whole numbers, and that nothing is lost.
-/

namespace Tabular

/-- A number is whole if the denominator of its exponent divides its coefficient. -/
lemma Place.value?_eq_int_iff {c e k : Int} :
    (finite c e).value? = some (k : ℚ) ↔ c * 2 ^ e.toNat = k * 2 ^ (-e).toNat := by
  have he : e + (-e).toNat = e.toNat := by omega
  have hpow : (2 : ℚ) ^ e * 2 ^ (-e).toNat = 2 ^ e.toNat := by
    rw [← zpow_natCast, ← zpow_natCast, ← zpow_add₀ two_ne_zero, he]
  rw [value?, Option.some.injEq, ← mul_left_inj' (pow_ne_zero (-e).toNat two_ne_zero), mul_assoc, hpow]
  exact_mod_cast Iff.rfl

/-- A finite floating point number is seen to be whole if its value is. -/
lemma Binary64.isInteger_iff {negative : Bool} {mantissa : Nat} {exponent : Int}
    {canonical : Canonical mantissa exponent} :
    (finite negative mantissa exponent canonical).isInteger = true ↔
      ∃ k : Int, (Cell.float (finite negative mantissa exponent canonical)).number? = some (k : ℚ) := by
  have hdvd : 2 ^ (-exponent).toNat ∣ mantissa ↔
      (2 : Int) ^ (-exponent).toNat ∣ (if negative then -(mantissa : Int) else mantissa) * 2 ^ exponent.toNat := by
    rcases le_or_gt 0 exponent with he | he
    · simp [Int.toNat_of_nonpos (Int.neg_nonpos_of_nonneg he)]
    · rw [Int.toNat_of_nonpos he.le, pow_zero, mul_one, ← Int.natCast_dvd_natCast]
      cases negative <;> simp
  simp only [isInteger, Nat.pow_eq, beq_iff_eq, ← Nat.dvd_iff_mod_eq_zero, hdvd, Cell.number?, place?,
    Option.bind_some, Place.value?_eq_int_iff]
  exact exists_congr fun k => by rw [mul_comm (2 ^ _) k]

/-- A finite number that is not whole has a fractional part. -/
lemma Binary64.exists_fractional {x : Binary64} (hfinite : x.isFinite = true) (h : x.isInteger = false) :
    ∃ q, (Cell.float x).number? = some q ∧ ∀ k : Int, q ≠ k := by
  cases x with
  | nan => cases hfinite
  | infinity negative => cases hfinite
  | finite negative mantissa exponent canonical =>
    refine ⟨_, rfl, fun k e => ?_⟩
    have hwhole : (finite negative mantissa exponent canonical).isInteger = true :=
      isInteger_iff.mpr ⟨k, congrArg some e⟩
    rw [h] at hwhole
    cases hwhole

/-- A text is read as a whole number, or stays as it is, or is the written form of a number that is not whole. -/
lemma interpretNumber_cases (s : String) :
    (∃ n, Integer.read? s.toList = some n ∧ interpretNumber s = .int n) ∨
      Integer.read? s.toList = none ∧ (interpretNumber s = .text s ∨
        ∃ x, interpretNumber s = .float x ∧ x.isFinite = true ∧ x.isInteger = false ∧ x.toText = s) := by
  unfold interpretNumber readNumber?
  cases hread : Integer.read? s.toList with
  | some n => exact .inl ⟨n, rfl, rfl⟩
  | none =>
    refine .inr ⟨rfl, ?_⟩
    cases (Decimal.read? s.toList).map Binary64.ofDecimal with
    | none => exact .inl rfl
    | some x =>
      by_cases hx : x.isFinite = true ∧ ¬ x.isInteger = true ∧ x.toText = s
      · refine .inr ⟨x, ?_, hx.1, by simpa using hx.2.1, hx.2.2⟩
        simp only [if_pos hx, Option.getD_some]
      · refine .inl ?_
        simp only [if_neg hx, Option.getD_none]

/-- A text is interpreted as a whole number exactly if it is the written form of one. -/
lemma interpretNumber_eq_int_iff {s : String} {n : Int} :
    interpretNumber s = .int n ↔ Integer.read? s.toList = some n := by
  rcases interpretNumber_cases s with ⟨k, hread, h⟩ | ⟨hread, h | ⟨x, h, -⟩⟩
  · rw [hread, h, Option.some.injEq, Cell.int.injEq]
  · rw [hread, h]
    exact ⟨nofun, nofun⟩
  · rw [hread, h]
    exact ⟨nofun, nofun⟩

/-- A number has as many digits as its numeral. -/
lemma Integer.length_unsigned_toChars_le_iff {n : Int} :
    (unsigned (toChars n)).length ≤ maxDigits ↔ n.natAbs < 10 ^ maxDigits := by
  rw [unsigned_toChars, ← isWritable_iff, isWritable, decide_eq_true_eq]

/-- A text is read as a whole number exactly if it is a numeral that is not too long, and each number that is not
too long is read from its written form. All other texts stay as they are or are read as a number with a
fractional part of which they are the written form. What is read is written as the text again. -/
theorem interpretNumber_eq_int_iff_and_display (s : String) (n : Int) :
    (interpretNumber s = .int n ↔
      Integer.Denotes s.toList n ∧ (Integer.unsigned s.toList).length ≤ Integer.maxDigits) ∧
    (interpretNumber (Integer.toText n) = .int n ↔ n.natAbs < 10 ^ Integer.maxDigits) ∧
    ((∃ k, interpretNumber s = .int k) ∨ interpretNumber s = .text s ∨
      ∃ x q, interpretNumber s = .float x ∧ (Cell.float x).number? = some q ∧ (∀ k : Int, q ≠ k) ∧
        x.toText = s) ∧
    (interpretNumber s).display = s := by
  refine ⟨?_, ?_, ?_, ?_⟩
  · rw [interpretNumber_eq_int_iff, Integer.read?_eq_some_iff]
  · rw [interpretNumber_eq_int_iff, Integer.read?_eq_some_iff, Integer.toText, String.toList_ofList,
      Integer.length_unsigned_toChars_le_iff]
    exact and_iff_right (Integer.denotes_toChars n)
  · rcases interpretNumber_cases s with ⟨k, -, h⟩ | ⟨-, h | ⟨x, h, hfinite, hwhole, htext⟩⟩
    · exact .inl ⟨k, h⟩
    · exact .inr (.inl h)
    · obtain ⟨q, hq, hfraction⟩ := Binary64.exists_fractional hfinite hwhole
      exact .inr (.inr ⟨x, q, h, hq, hfraction, htext⟩)
  · rcases interpretNumber_cases s with ⟨k, hread, h⟩ | ⟨-, h | ⟨x, h, -, -, htext⟩⟩
    · rw [h]
      show String.ofList (Integer.toChars k) = s
      rw [(Integer.read?_eq_some_iff.mp hread).1.toChars_eq, String.ofList_toList]
    · rw [h]
      rfl
    · rw [h]
      exact htext

end Tabular
