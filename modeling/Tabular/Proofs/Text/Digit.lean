import Mathlib.Tactic.Lemma
import Mathlib.Tactic.Ring
import Tabular.Text.Blank
import Tabular.Text.Digit

/-!
# Digits and what they write

Writing uses the ASCII digits only. What is written in them is read as the number that they stand for. Digits of
any script are read one by one, and none of them is blank.

* `digitsValue_eq_ofDigitChars`: the value of ASCII digits.
* `exists_zeroDigit_of_isDigit`: the digits of all scripts.
* `isBlank_of_isDigit`: they are not blank.
-/

namespace Tabular.Text

variable {c : Char} {cs : List Char}

/-- An ASCII digit is less than ten behind zero. -/
lemma sub_lt_of_isDigit (h : c.isDigit = true) : c.toNat - '0'.toNat < 10 := by
  obtain ⟨hzero, hnine⟩ := Char.isDigit_iff_toNat.mp h
  exact Nat.sub_lt_left_of_lt_add hzero (Nat.lt_succ_of_le hnine)

/-- An ASCII digit is the written form of its distance to zero. -/
lemma digitChar_of_isDigit (h : c.isDigit = true) : (c.toNat - '0'.toNat).digitChar = c := by
  obtain ⟨hzero, -⟩ := Char.isDigit_iff_toNat.mp h
  apply Char.toNat_inj.mp
  rw [Nat.toNat_digitChar_of_lt_ten (sub_lt_of_isDigit h)]
  exact Nat.add_sub_cancel' hzero

/-- Digits are ordered by their values. -/
lemma lt_iff_of_isDigit {d : Char} (hc : c.isDigit = true) :
    c < d ↔ c.toNat - '0'.toNat < d.toNat - '0'.toNat := by
  obtain ⟨hzero, -⟩ := Char.isDigit_iff_toNat.mp hc
  have hlt : c < d ↔ c.toNat < d.toNat := by rw [Char.lt_def, UInt32.lt_iff_toNat_lt]; rfl
  rw [hlt]
  exact (Nat.sub_lt_sub_iff_right hzero).symm

/-- ASCII digits are equal if their values are. -/
lemma eq_iff_of_isDigit {d : Char} (hc : c.isDigit = true) (hd : d.isDigit = true) :
    c = d ↔ c.toNat - '0'.toNat = d.toNat - '0'.toNat := by
  refine ⟨fun h => h ▸ rfl, fun h => ?_⟩
  rw [← digitChar_of_isDigit hc, h, digitChar_of_isDigit hd]

/-- The value of an ASCII digit is its distance to zero. -/
lemma digitValue?_of_isDigit (h : c.isDigit = true) : digitValue? c = some (c.toNat - '0'.toNat) := by
  obtain ⟨hzero, hnine⟩ := Char.isDigit_iff_toNat.mp h
  have hfirst : zeroDigits.find? (fun z => z ≤ c.toNat && c.toNat < z + 10) = some '0'.toNat :=
    List.find?_cons_of_pos (by simpa using ⟨hzero, Nat.lt_succ_of_le hnine⟩)
  rw [digitValue?, hfirst]
  rfl

/-- ASCII digits are digits. -/
lemma isDigit_of_ascii (h : c.isDigit = true) : isDigit c = true := by
  rw [isDigit, digitValue?_of_isDigit h]
  rfl

/-- ASCII digits have the value of the decimal number that they write. -/
lemma digitsValue_eq_ofDigitChars (h : ∀ c ∈ cs, c.isDigit = true) :
    digitsValue cs = Nat.ofDigitChars 10 cs 0 := by
  suffices ∀ n, cs.foldl (fun n c => 10 * n + (digitValue? c).getD 0) n = Nat.ofDigitChars 10 cs n from this 0
  induction cs with
  | nil => simp
  | cons c cs ih =>
    obtain ⟨hc, hcs⟩ := List.forall_mem_cons.mp h
    intro n
    rw [List.foldl_cons, Nat.ofDigitChars_cons, digitValue?_of_isDigit hc]
    exact ih hcs _

/-- Digits in front of others count so many times ten. -/
lemma digitsValue_append (cs ds : List Char) :
    digitsValue (cs ++ ds) = digitsValue cs * 10 ^ ds.length + digitsValue ds := by
  suffices ∀ n, ds.foldl (fun n c => 10 * n + (digitValue? c).getD 0) n = n * 10 ^ ds.length + digitsValue ds by
    rw [digitsValue, List.foldl_append]
    exact this _
  induction ds with
  | nil => simp [digitsValue]
  | cons d ds ih =>
    intro n
    rw [digitsValue, List.foldl_cons, ih, List.foldl_cons, ih, List.length_cons, Nat.pow_succ]
    ring

/-- A digit lies in the range of its script. -/
lemma exists_zeroDigit_of_isDigit (h : isDigit c = true) : ∃ z ∈ zeroDigits, z ≤ c.toNat ∧ c.toNat < z + 10 := by
  rw [isDigit, digitValue?, Option.isSome_map, List.find?_isSome] at h
  obtain ⟨z, hz, h⟩ := h
  rw [Bool.and_eq_true, decide_eq_true_eq, decide_eq_true_eq] at h
  exact ⟨z, hz, h⟩

/-- No digit leaves white space. -/
lemma isBlank_of_isDigit (h : isDigit c = true) : isBlank c = false := by
  obtain ⟨z, hz, hlow, hhigh⟩ := exists_zeroDigit_of_isDigit h
  have apart : ∀ z ∈ zeroDigits, ∀ r ∈ blankIntervals, r.2 < z ∨ z + 10 ≤ r.1 := by decide +kernel
  rw [isBlank, List.any_eq_false]
  intro r hr hc
  rw [Bool.and_eq_true, decide_eq_true_eq, decide_eq_true_eq] at hc
  rcases apart z hz r hr with h | h <;> omega

end Tabular.Text
