import Mathlib.Algebra.Ring.Int.Parity
import Mathlib.Tactic.Lemma
import Tabular.Interpret
import Tabular.Proofs.Outcome

/-!
# Cells that can be written

Whole numbers of any length are cells, but only those of at most `Integer.maxDigits` digits can be
written. A list or a record can be written if all that it holds can, and no reading makes a number too
long to be written.

* `Integer.isWritable_iff`: the numbers that can be written.
* `shown_eq_ok_iff`, `shown_eq_error_iff`: when a cell can be shown.
* `isWritable_of_read`: what a cell is read as can be written if the cell can.
-/

namespace Tabular

namespace Integer

/-- Without its sign a whole number is written as its absolute value. -/
lemma unsigned_toChars (n : Int) : unsigned (toChars n) = naturalChars n.natAbs := by
  cases n with
  | negSucc n => rfl
  | ofNat n =>
    have digits : ∀ c ∈ naturalChars n, c.isDigit := fun c hc =>
      Nat.isDigit_of_mem_toDigits (by decide) (by decide) hc
    show unsigned (naturalChars n) = naturalChars n
    -- A minus sign in front would be a digit.
    unfold unsigned
    split
    · rename_i e
      rw [e] at digits
      exact absurd (digits '-' List.mem_cons_self) (by decide)
    · rfl

/-- The numbers that can be written are those below a power of ten. -/
lemma isWritable_iff {n : Int} : isWritable n = true ↔ n.natAbs < 10 ^ maxDigits := by
  rw [isWritable, decide_eq_true_eq]
  exact Nat.length_toDigits_le_iff (by decide) (by decide)

/-- The least number that cannot be written. -/
lemma not_isWritable_pow : isWritable (10 ^ maxDigits) = false := by
  have habs : ∀ k : Nat, ((10 : Int) ^ k).natAbs = 10 ^ k := fun k => Int.natAbs_pow 10 k
  rw [Bool.eq_false_iff, ne_eq, isWritable_iff, habs]
  exact Nat.lt_irrefl (10 ^ maxDigits)

/-- What is read can be written: it was written when it was read. -/
lemma isWritable_of_read? {cs : List Char} {n : Int} (h : read? cs = some n) : isWritable n := by
  rw [read?] at h
  split at h
  · rename_i hcs
    cases h
    obtain ⟨hlength, hchars⟩ := hcs
    rw [← hchars, unsigned_toChars] at hlength
    simpa [isWritable] using hlength
  · cases h

end Integer

namespace Cell

/-- Showing a cell fails if it cannot be written. -/
lemma shown_eq_error_iff {c : Cell} {e : Integer.TooLong} : c.shown = .error e ↔ c.isWritable = false := by
  unfold shown
  split
  · rename_i h
    simp [h]
  · rename_i h
    simp [h]

/-- A list can be written if all its cells can. -/
lemma isWritable_list {cells : List Cell} :
    (list cells).isWritable = true ↔ ∀ c ∈ cells, c.isWritable = true := by
  rw [isWritable]
  induction cells with
  | nil => simp [allWritable]
  | cons c cells ih => simp [allWritable, ih]

/-- A record can be written if all cells in it can. -/
lemma isWritable_record {fields : List (String × Cell)} :
    (record fields).isWritable = true ↔ ∀ f ∈ fields, f.2.isWritable = true := by
  rw [isWritable]
  induction fields with
  | nil => simp [fieldsWritable]
  | cons f fields ih => simp [fieldsWritable, ih]

/-- A cell that cannot be written counts as true: it is neither zero nor empty. -/
lemma truthy_of_not_isWritable {c : Cell} (h : c.isWritable = false) : c.truthy = true := by
  cases c with
  | int n =>
    have hn : n ≠ 0 := by
      rintro rfl
      cases h
    exact bne_iff_ne.mpr hn
  | list cells =>
    cases cells with
    | nil => cases h
    | cons c cells => rfl
  | record fields =>
    cases fields with
    | nil => cases h
    | cons f fields => rfl
  | null | bool | float | text => cases h

end Cell

/-- A number that is read from a text has few enough digits to be written. -/
lemma isWritable_interpretNumber (s : String) : (interpretNumber s).isWritable = true := by
  unfold interpretNumber readNumber?
  cases h : Integer.read? s.toList with
  | some n => exact Integer.isWritable_of_read? h
  | none =>
    cases (Decimal.read? s.toList).map Binary64.ofDecimal with
    | none => rfl
    | some x =>
      dsimp only
      split
      · rfl
      · rfl

namespace Interpretation

/-- Reading a date makes a text, or leaves the cell. -/
lemma isWritable_of_readDate {iso : Calendar.IsoRule} {r : Interpretation} {c c' : Cell} (h : c.isWritable = true)
    (hread : r.readDate iso c = .ok c') : c'.isWritable = true := by
  unfold readDate at hread
  split at hread
  · obtain ⟨time?, -, hread⟩ := bind_eq_ok_iff.mp hread
    cases time? with
    | some time =>
      cases hread
      rfl
    | none =>
      cases hread
      rfl
  · cases hread
    exact h

/-- Reading a truth word makes a truth value, or leaves the cell. -/
lemma isWritable_readTruth {r : Interpretation} {c : Cell} (h : c.isWritable = true) :
    (r.readTruth c).isWritable = true := by
  unfold readTruth
  split
  · rfl
  · split
    · rfl
    · exact h

/-- Reading a number makes one that can be written, or leaves the cell. -/
lemma isWritable_readNumber {r : Interpretation} {c : Cell} (h : c.isWritable = true) :
    (r.readNumber c).isWritable = true := by
  unfold readNumber
  split
  · split
    · exact isWritable_interpretNumber _
    · rfl
  · exact h

/-- What a cell that can be written is read as can be written. -/
lemma isWritable_of_read {iso : Calendar.IsoRule} (r : Interpretation) {c c' : Cell} (h : c.isWritable = true)
    (hread : r.read iso c = .ok c') : c'.isWritable = true := by
  obtain ⟨date, hdate, e⟩ := map_eq_ok_iff.mp hread
  cases e
  exact isWritable_readNumber (isWritable_readTruth (isWritable_of_readDate h hdate))

end Interpretation

end Tabular
