import Mathlib.Tactic.Lemma
import Tabular.Number.Integer
import Tabular.Proofs.Text.Digit

/-!
# Numerals

A numeral is zero, or a run of ASCII digits that begins with another digit than zero, behind a minus sign or
not. Every whole number has one numeral, its written form, and no other text is read as a whole number.

* `Denotes`: a numeral denotes a whole number.
* `denotes_toChars`: each number has a numeral.
* `read?_eq_some_iff`: what is read as a whole number.
-/

namespace Tabular.Integer

open Text

/-- A numeral and the number that it denotes. -/
inductive Denotes : List Char → Int → Prop where
  | zero : Denotes ['0'] 0
  | positive {d digits} : d ≠ '0' → (∀ c ∈ d :: digits, c.isDigit = true) →
    Denotes (d :: digits) (Nat.ofDigitChars 10 (d :: digits) 0)
  | negative {d digits} : d ≠ '0' → (∀ c ∈ d :: digits, c.isDigit = true) →
    Denotes ('-' :: d :: digits) (-(Nat.ofDigitChars 10 (d :: digits) 0 : Int))

variable {cs digits : List Char} {d : Char} {n : Int} {k : Nat}

/-- Natural numbers are written in digits. -/
lemma isDigit_of_mem_naturalChars {c : Char} (hc : c ∈ naturalChars k) : c.isDigit = true :=
  Nat.isDigit_of_mem_toDigits (by decide) (by decide) hc

/-- The written form of a positive number begins with another digit than zero. -/
lemma exists_naturalChars_eq_cons (hk : 0 < k) : ∃ d digits, naturalChars k = d :: digits ∧ d ≠ '0' := by
  induction k using Nat.base_induction 10 (by decide) with
  | single m hm =>
    refine ⟨m.digitChar, [], Nat.toDigits_of_lt_base hm, ?_⟩
    rw [Ne, Nat.digitChar_eq_zero]
    exact Nat.pos_iff_ne_zero.mp hk
  | digit m last hlast hm ih =>
    obtain ⟨d, digits, h, hd⟩ := ih hm
    refine ⟨d, digits ++ naturalChars last, ?_, hd⟩
    rw [naturalChars, ← Nat.toDigits_append_toDigits (by decide) hm hlast]
    exact congrArg (· ++ naturalChars last) h

/-- Digits that are read behind a positive number are written behind it. -/
lemma naturalChars_ofDigitChars_append (hk : 0 < k) (h : ∀ c ∈ digits, c.isDigit = true) :
    naturalChars (Nat.ofDigitChars 10 digits k) = naturalChars k ++ digits := by
  induction digits generalizing k with
  | nil => simp
  | cons c digits ih =>
    obtain ⟨hc, hdigits⟩ := List.forall_mem_cons.mp h
    have hlt := sub_lt_of_isDigit hc
    have hlast : naturalChars (10 * k + (c.toNat - '0'.toNat)) = naturalChars k ++ [c] := by
      rw [naturalChars, ← Nat.toDigits_append_toDigits (by decide) hk hlt, Nat.toDigits_of_lt_base hlt,
        digitChar_of_isDigit hc]
      rfl
    rw [Nat.ofDigitChars_cons, ih (by omega) hdigits, hlast, List.append_assoc]
    rfl

/-- Digits without a leading zero are the written form of their number. -/
lemma naturalChars_ofDigitChars (hd : d ≠ '0') (h : ∀ c ∈ d :: digits, c.isDigit = true) :
    naturalChars (Nat.ofDigitChars 10 (d :: digits) 0) = d :: digits := by
  obtain ⟨hdigit, hdigits⟩ := List.forall_mem_cons.mp h
  have hpos : 0 < d.toNat - '0'.toNat := by
    refine Nat.pos_of_ne_zero fun e => hd ?_
    rw [← digitChar_of_isDigit hdigit, e]
    rfl
  rw [Nat.ofDigitChars_cons, Nat.mul_zero, Nat.zero_add, naturalChars_ofDigitChars_append hpos hdigits,
    naturalChars, Nat.toDigits_of_lt_base (sub_lt_of_isDigit hdigit), digitChar_of_isDigit hdigit]
  rfl

/-- The written form of a number denotes it. -/
lemma denotes_toChars (n : Int) : Denotes (toChars n) n := by
  have digits {k : Nat} (hk : 0 < k) : ∃ d digits, naturalChars k = d :: digits ∧ d ≠ '0' ∧
      (∀ c ∈ d :: digits, c.isDigit = true) ∧ Nat.ofDigitChars 10 (d :: digits) 0 = k := by
    obtain ⟨d, digits, h, hd⟩ := exists_naturalChars_eq_cons hk
    refine ⟨d, digits, h, hd, ?_, ?_⟩
    · exact h ▸ fun c hc => isDigit_of_mem_naturalChars hc
    · exact h ▸ Nat.ofDigitChars_ten_toDigits
  cases n with
  | ofNat k =>
    rcases Nat.eq_zero_or_pos k with rfl | hk
    · exact .zero
    · obtain ⟨d, digits, h, hd, hdigits, hvalue⟩ := digits hk
      have hdenotes := Denotes.positive hd hdigits
      rwa [hvalue, ← h] at hdenotes
  | negSucc k =>
    obtain ⟨d, digits, h, hd, hdigits, hvalue⟩ := digits k.succ_pos
    have hdenotes := Denotes.negative hd hdigits
    rwa [hvalue, ← h] at hdenotes

/-- A numeral is the written form of the number that it denotes. -/
lemma Denotes.toChars_eq (h : Denotes cs n) : toChars n = cs := by
  cases h with
  | zero => rfl
  | positive hd hdigits => exact naturalChars_ofDigitChars hd hdigits
  | @negative d digits hd hdigits =>
    have h := naturalChars_ofDigitChars hd hdigits
    cases hk : Nat.ofDigitChars 10 (d :: digits) 0 with
    | zero =>
      rw [hk] at h
      cases h
      exact absurd rfl hd
    | succ k =>
      rw [hk] at h
      exact congrArg ('-' :: ·) h

/-- A numeral is evaluated as the number that it denotes. -/
lemma Denotes.evaluate_eq (h : Denotes cs n) : evaluate cs = n := by
  cases h with
  | zero => rfl
  | @positive d digits hd hdigits =>
    have hvalue : evaluate (d :: digits) = digitsValue (d :: digits) := by
      unfold evaluate
      split
      · rename_i e
        rw [e] at hdigits
        exact absurd (hdigits '-' List.mem_cons_self) (by decide)
      · rfl
    rw [hvalue, digitsValue_eq_ofDigitChars hdigits]
  | negative hd hdigits => rw [evaluate, digitsValue_eq_ofDigitChars hdigits]

/-- Numerals that are not too long, and nothing else, are read as whole numbers. -/
lemma read?_eq_some_iff : read? cs = some n ↔ Denotes cs n ∧ (unsigned cs).length ≤ maxDigits := by
  rw [read?]
  constructor
  · intro h
    split at h
    · rename_i hcs
      cases h
      have hdenotes := denotes_toChars (evaluate cs)
      rw [hcs.2] at hdenotes
      exact ⟨hdenotes, hcs.1⟩
    · cases h
  · rintro ⟨h, hlength⟩
    rw [h.evaluate_eq, if_pos ⟨hlength, h.toChars_eq⟩]

end Tabular.Integer
