import Mathlib.Algebra.BigOperators.Group.List.Basic
import Mathlib.Algebra.Order.Ring.Nat
import Mathlib.Data.Prod.Lex
import Mathlib.Order.Monotone.Basic
import Mathlib.Tactic.Lemma
import Tabular.Calendar.Date

/-!
# The numbers of the days

Days are ordered by year, month and day. Their numbers count them in this order and without a gap: every
number from 1 to that of the last day is the number of exactly one day, and no other number is one.

* `ordinal_strictMono`: later days have greater numbers.
* `ofOrdinal?_eq_some_iff`: the day of a number is the one that has it.
* `exists_ordinal_iff`: which numbers there are.
-/

namespace Tabular.Calendar

/-- No month has more than 31 days. -/
lemma daysInMonth_le (year month : Nat) : daysInMonth year month ≤ 31 := by
  have hall : ∀ n ∈ monthLengths year, n ≤ 31 := by
    unfold monthLengths
    cases isLeapYear year <;> decide
  rw [daysInMonth, List.getD]
  cases e : (monthLengths year)[month - 1]? with
  | none => exact Nat.zero_le _
  | some n => exact hall n (List.mem_of_getElem? e)

namespace Date

variable {y m n : Nat} {d e : Date}

/-- A year begins behind all days of the year before it. -/
lemma daysBeforeYear_succ (hy : 1 ≤ y) : daysBeforeYear (y + 1) = daysBeforeYear y + daysInYear y := by
  obtain ⟨x, rfl⟩ := Nat.exists_eq_add_of_le' hy
  have hless : x / 100 ≤ x := Nat.div_le_self _ _
  have hfour : 100 ∣ x + 1 → 4 ∣ x + 1 := Nat.dvd_trans ⟨25, rfl⟩
  have hhundred : 400 ∣ x + 1 → 100 ∣ x + 1 := Nat.dvd_trans ⟨4, rfl⟩
  simp only [daysBeforeYear, daysInYear, isLeapYear, Nat.add_sub_cancel, Nat.succ_div, bne_iff_ne, beq_iff_eq,
    Bool.and_eq_true, Bool.or_eq_true, ne_eq, ← Nat.dvd_iff_mod_eq_zero]
  generalize x / 4 = a, x / 100 = b, x / 400 = c at *
  by_cases h4 : 4 ∣ x + 1
  · by_cases h100 : 100 ∣ x + 1
    · by_cases h400 : 400 ∣ x + 1
      · simp only [h4, h100, h400, if_true, true_and, or_true]
        omega
      · simp only [h4, h100, h400, if_true, if_false, true_and, not_true, or_false]
        omega
    · have h400 : ¬ 400 ∣ x + 1 := fun h => h100 (hhundred h)
      simp only [h4, h100, h400, if_true, if_false, true_and, not_false_iff, true_or]
      omega
  · have h100 : ¬ 100 ∣ x + 1 := fun h => h4 (hfour h)
    have h400 : ¬ 400 ∣ x + 1 := fun h => h100 (hhundred h)
    simp only [h4, h100, h400, if_false, false_and]
    omega

/-- Later years begin later. -/
lemma daysBeforeYear_mono (hy : 1 ≤ y) (h : y ≤ n) : daysBeforeYear y ≤ daysBeforeYear n := by
  induction n, h using Nat.le_induction with
  | base => exact le_rfl
  | succ n hn ih => exact ih.trans (by rw [daysBeforeYear_succ (hy.trans hn)]; exact Nat.le_add_right _ _)

/-- The days before a month are the lengths of the months before it. -/
lemma daysBeforeMonth_eq_sum (y m : Nat) : daysBeforeMonth y m = ((monthLengths y).take (m - 1)).sum :=
  rfl

/-- A month begins behind all days of the month before it. -/
lemma daysBeforeMonth_succ (hm : 1 ≤ m) : daysBeforeMonth y (m + 1) = daysBeforeMonth y m + daysInMonth y m := by
  obtain ⟨k, rfl⟩ := Nat.exists_eq_add_of_le' hm
  simp only [daysBeforeMonth_eq_sum, daysInMonth, Nat.add_sub_cancel, List.getD]
  rw [List.take_add_one, List.sum_append]
  cases (monthLengths y)[k]? <;> simp

/-- Later months begin later. -/
lemma daysBeforeMonth_mono (hm : 1 ≤ m) (h : m ≤ n) : daysBeforeMonth y m ≤ daysBeforeMonth y n := by
  induction n, h using Nat.le_induction with
  | base => exact le_rfl
  | succ n hn ih => exact ih.trans (by rw [daysBeforeMonth_succ (hm.trans hn)]; exact Nat.le_add_right _ _)

/-- The months fill the year. -/
lemma sum_monthLengths (y : Nat) : (monthLengths y).sum = daysInYear y := by
  unfold monthLengths daysInYear
  cases isLeapYear y <;> rfl

/-- A date lies before the month behind it. -/
lemma day_le (d : Date) : daysBeforeMonth d.year d.month + d.day ≤ daysBeforeMonth d.year (d.month + 1) := by
  rw [daysBeforeMonth_succ d.isDate.2.1.1]
  exact Nat.add_le_add_left d.isDate.2.2.2 _

/-- A date lies before the year behind it. -/
lemma ordinal_le (d : Date) : d.ordinal ≤ daysBeforeYear (d.year + 1) := by
  have hmonth : daysBeforeMonth d.year (d.month + 1) ≤ daysBeforeMonth d.year 13 :=
    daysBeforeMonth_mono (Nat.le_add_left 1 _) (Nat.succ_le_succ d.isDate.2.1.2)
  have hyear : daysBeforeMonth d.year 13 = daysInYear d.year := sum_monthLengths d.year
  rw [daysBeforeYear_succ d.isDate.1.1, ordinal, Nat.add_assoc]
  exact Nat.add_le_add_left ((day_le d).trans (hmonth.trans hyear.le)) _

/-- A date lies behind all years before its own. -/
lemma lt_ordinal (d : Date) : daysBeforeYear d.year < d.ordinal := by
  have hday := d.isDate.2.2.1
  rw [ordinal]
  omega

/-- Year, month and day, in the order in which they are compared. -/
def key (d : Date) : ℕ ×ₗ ℕ ×ₗ ℕ :=
  toLex (d.year, toLex (d.month, d.day))

/-- A date is known by its year, month and day. -/
lemma key_injective : Function.Injective key := by
  rintro ⟨y, m, d, h⟩ ⟨y', m', d', h'⟩ e
  cases e
  rfl

/-- Dates are equal if their years, months and days are. -/
lemma eq_iff : d = e ↔ d.year = e.year ∧ d.month = e.month ∧ d.day = e.day := by
  constructor
  · rintro rfl
    exact ⟨rfl, rfl, rfl⟩
  · rintro ⟨hyear, hmonth, hday⟩
    apply key_injective
    rw [key, key, hyear, hmonth, hday]

/-- Dates are ordered by year, month and day. -/
instance : LinearOrder Date :=
  LinearOrder.lift' key key_injective

/-- A date is earlier if its year is, or its month in the same year, or its day in the same month. -/
lemma lt_iff : d < e ↔
    d.year < e.year ∨ d.year = e.year ∧ (d.month < e.month ∨ d.month = e.month ∧ d.day < e.day) := by
  show d.key < e.key ↔ _
  simp only [key, Prod.Lex.toLex_lt_toLex]

/-- Later dates have greater numbers. -/
lemma ordinal_strictMono : StrictMono ordinal := by
  intro d e h
  rcases lt_iff.mp h with hyear | ⟨hyear, hmonth | ⟨hmonth, hday⟩⟩
  · calc d.ordinal ≤ daysBeforeYear (d.year + 1) := ordinal_le d
      _ ≤ daysBeforeYear e.year := daysBeforeYear_mono (Nat.le_add_left 1 _) hyear
      _ < e.ordinal := lt_ordinal e
  · have hle : daysBeforeMonth d.year (d.month + 1) ≤ daysBeforeMonth d.year e.month :=
      daysBeforeMonth_mono (Nat.le_add_left 1 _) hmonth
    have hday := e.isDate.2.2.1
    rw [ordinal, ordinal, ← hyear, Nat.add_assoc, Nat.add_assoc]
    exact Nat.add_lt_add_left (((day_le d).trans hle).trans_lt (Nat.lt_add_of_pos_right hday)) _
  · rw [ordinal, ordinal, hyear, hmonth]
    exact Nat.add_lt_add_left hday _

/-- The number of the last day of the calendar. -/
def lastOrdinal : Nat :=
  daysBeforeYear (lastYear + 1)

/-- No date is behind the last day of the calendar. -/
lemma ordinal_le_last (d : Date) : d.ordinal ≤ lastOrdinal :=
  (ordinal_le d).trans (daysBeforeYear_mono (Nat.le_add_left 1 _) (Nat.succ_le_succ d.isDate.1.2))

section Groups

variable {a b c k r : Nat}

/-- The days before a year, counted in groups of 400, 100 and 4 years. -/
lemma daysBeforeYear_of_groups (hb : b ≤ 3) (hc : c ≤ 24) (hk : k ≤ 3) :
    daysBeforeYear (400 * a + 100 * b + 4 * c + k + 1) = 146097 * a + 36524 * b + 1461 * c + 365 * k := by
  have hfour : (400 * a + 100 * b + 4 * c + k) / 4 = 100 * a + 25 * b + c := by omega
  have hhundred : (400 * a + 100 * b + 4 * c + k) / 100 = 4 * a + b := by omega
  have hall : (400 * a + 100 * b + 4 * c + k) / 400 = a := by omega
  simp only [daysBeforeYear, Nat.add_sub_cancel, hfour, hhundred, hall]
  omega

/-- Only the last year of a group of four is a leap year, and not in a last group but the last of 400 years. -/
lemma daysInYear_of_groups (hb : b ≤ 3) (hc : c ≤ 24) (hk : k ≤ 3) :
    daysInYear (400 * a + 100 * b + 4 * c + k + 1) = if k = 3 ∧ (c ≠ 24 ∨ b = 3) then 366 else 365 := by
  have hfour : (400 * a + 100 * b + 4 * c + k + 1) % 4 = 0 ↔ k = 3 := by omega
  have hleap : isLeapYear (400 * a + 100 * b + 4 * c + k + 1) = true ↔ k = 3 ∧ (c ≠ 24 ∨ b = 3) := by
    simp only [isLeapYear, bne_iff_ne, beq_iff_eq, Bool.and_eq_true, Bool.or_eq_true, ne_eq, hfour]
    refine and_congr_right fun h => ?_
    have hhundred : (400 * a + 100 * b + 4 * c + k + 1) % 100 = 0 ↔ c = 24 := by omega
    have hall : (400 * a + 100 * b + 4 * c + k + 1) % 400 = 0 ↔ c = 24 ∧ b = 3 := by omega
    rw [hhundred, hall]
    omega
  simp only [daysInYear, hleap]

/-- Of four groups of `n` days the last may have a day more. -/
lemma exists_group (n : Nat) (h : r ≤ 4 * n) (hn : 0 < n) : ∃ k rest, min 3 (r / n) = k ∧ k ≤ 3 ∧
    r = rest + k * n ∧ (rest < n ∨ k = 3 ∧ rest = n) := by
  refine ⟨min 3 (r / n), r - min 3 (r / n) * n, rfl, Nat.min_le_left _ _, ?_, ?_⟩
  · refine (Nat.sub_add_cancel ?_).symm
    exact (Nat.mul_le_mul_right n (Nat.min_le_right _ _)).trans (Nat.div_mul_le_self r n)
  · rcases Nat.lt_or_ge (r / n) 3 with hlt | hge
    · have hmod := Nat.mod_lt r hn
      rw [Nat.min_eq_right hlt.le, ← Nat.mod_eq_sub_div_mul]
      exact .inl hmod
    · rw [Nat.min_eq_left hge]
      omega

end Groups

/-- The year that is found holds the day asked for, at the index that is left. -/
lemma findYear_spec (index : Nat) : 1 ≤ (findYear index).1 ∧
    daysBeforeYear (findYear index).1 + (findYear index).2 = index ∧
      (findYear index).2 < daysInYear (findYear index).1 := by
  have hindex := Nat.div_add_mod index 146097
  have hlt := Nat.mod_lt index (Nat.succ_pos 146096)
  simp only [findYear]
  generalize index / 146097 = a, index % 146097 = r at *
  obtain ⟨b, r, hb, hb', rfl, hr⟩ := exists_group (r := r) 36524 (by omega) (by omega)
  rw [hb, Nat.add_sub_cancel]
  have hrest := Nat.div_add_mod r 1461
  have hlt := Nat.mod_lt r (Nat.succ_pos 1460)
  generalize r / 1461 = c, r % 1461 = s at *
  obtain ⟨k, s, hk, hk', rfl, hs⟩ := exists_group (r := s) 365 (by omega) (by omega)
  rw [hk, Nat.add_sub_cancel]
  have hc : c ≤ 24 := by omega
  refine ⟨Nat.le_add_left 1 _, ?_, ?_⟩
  · rw [daysBeforeYear_of_groups hb' hc hk']
    omega
  · rw [daysInYear_of_groups hb' hc hk']
    split <;> omega

/-- The month that is found holds the day asked for: the months before it do not reach it. -/
lemma findMonth_spec (index : Nat) {lengths : List Nat} (h : index < lengths.sum) :
    ∃ k, k < lengths.length ∧ (lengths.take k).sum ≤ index ∧ index < (lengths.take k).sum + lengths.getD k 0 ∧
      findMonth m index lengths = (m + k, index - (lengths.take k).sum + 1) := by
  induction lengths generalizing m index with
  | nil => cases h
  | cons n lengths ih =>
    rw [List.sum_cons] at h
    by_cases hn : index < n
    · refine ⟨0, Nat.succ_pos _, Nat.zero_le _, by simpa using hn, ?_⟩
      rw [findMonth, if_pos hn]
      rfl
    · obtain ⟨k, hk, hle, hlt, he⟩ := ih (index - n) (by omega)
      refine ⟨k + 1, Nat.succ_lt_succ hk, ?_, ?_, ?_⟩
      · rw [List.take_succ_cons, List.sum_cons]
        omega
      · rw [List.take_succ_cons, List.sum_cons, List.getD_cons_succ]
        omega
      · rw [findMonth, if_neg hn, he, List.take_succ_cons, List.sum_cons, Nat.sub_sub]
        congr 1
        omega

/-- The date of three numbers has them as its year, month and day. -/
lemma of?_eq_some_iff {year month day : Nat} :
    of? year month day = some d ↔ d.year = year ∧ d.month = month ∧ d.day = day := by
  unfold of?
  constructor
  · intro h
    split at h
    · cases h
      exact ⟨rfl, rfl, rfl⟩
    · cases h
  · rintro ⟨rfl, rfl, rfl⟩
    exact dif_pos d.isDate

/-- What is looked up for a number is a day with that number, but for the limit of the years. -/
lemma exists_ofOrdinal?_eq (n : Nat) : ∃ year month day, ofOrdinal? (n + 1 : Nat) = of? year month day ∧
    (1 ≤ year ∧ (1 ≤ month ∧ month ≤ 12) ∧ 1 ≤ day ∧ day ≤ daysInMonth year month) ∧
      daysBeforeYear year + daysBeforeMonth year month + day = n + 1 := by
  have hfound := findYear_spec n
  rcases e : findYear n with ⟨year, index⟩
  rw [e] at hfound
  obtain ⟨hyear, hindex, hlt⟩ := hfound
  dsimp only at hyear hindex hlt
  rw [← sum_monthLengths] at hlt
  obtain ⟨k, hk, hle, hlt, hmonth⟩ := findMonth_spec (m := 1) index hlt
  have hk : k < 12 := hk
  refine ⟨year, 1 + k, index - ((monthLengths year).take k).sum + 1, ?_, ?_, ?_⟩
  · rw [ofOrdinal?, if_neg (by omega), Int.toNat_natCast, Nat.add_sub_cancel, e]
    dsimp only
    rw [hmonth]
  · refine ⟨hyear, by omega, Nat.le_add_left 1 _, ?_⟩
    rw [daysInMonth, Nat.add_sub_cancel_left]
    omega
  · rw [daysBeforeMonth_eq_sum, Nat.add_sub_cancel_left]
    omega

/-- The date of a number has that number. -/
lemma ordinal_of_ofOrdinal? {i : Int} (h : ofOrdinal? i = some d) : (d.ordinal : Int) = i := by
  rcases Int.lt_or_le i 1 with hi | hi
  · rw [ofOrdinal?, if_pos hi] at h
    cases h
  · obtain ⟨n, rfl⟩ : ∃ n : Nat, i = (n + 1 : Nat) := ⟨i.toNat - 1, by omega⟩
    obtain ⟨year, month, day, he, -, hsum⟩ := exists_ofOrdinal?_eq n
    obtain ⟨rfl, rfl, rfl⟩ := of?_eq_some_iff.mp (he ▸ h)
    exact_mod_cast hsum

/-- Every number up to that of the last day names a day. -/
lemma exists_ofOrdinal? {i : Int} (hi : 1 ≤ i) (hlast : i ≤ lastOrdinal) : ∃ d, ofOrdinal? i = some d := by
  obtain ⟨n, rfl⟩ : ∃ n : Nat, i = (n + 1 : Nat) := ⟨i.toNat - 1, by omega⟩
  obtain ⟨year, month, day, he, ⟨hyear, hmonth, hday⟩, hsum⟩ := exists_ofOrdinal?_eq n
  have hlastYear : year ≤ lastYear := by
    by_contra hlt
    have hle : lastOrdinal ≤ daysBeforeYear year := daysBeforeYear_mono (Nat.le_add_left 1 _) (by omega)
    omega
  exact ⟨⟨year, month, day, ⟨hyear, hlastYear⟩, hmonth, hday⟩, he ▸ of?_eq_some_iff.mpr ⟨rfl, rfl, rfl⟩⟩

/-- A number names the one day that has it. -/
lemma ofOrdinal?_eq_some_iff {i : Int} : ofOrdinal? i = some d ↔ (d.ordinal : Int) = i := by
  refine ⟨ordinal_of_ofOrdinal?, ?_⟩
  rintro rfl
  have hpos : 1 ≤ d.ordinal := Nat.one_le_of_lt (lt_ordinal d)
  obtain ⟨e, he⟩ := exists_ofOrdinal? (i := d.ordinal) (by exact_mod_cast hpos) (by exact_mod_cast ordinal_le_last d)
  have hordinal : e.ordinal = d.ordinal := by exact_mod_cast ordinal_of_ofOrdinal? he
  rw [he, ordinal_strictMono.injective hordinal]

/-- The numbers of the days are those from 1 to that of the last day. -/
lemma exists_ordinal_iff {i : Int} : (∃ d : Date, (d.ordinal : Int) = i) ↔ 1 ≤ i ∧ i ≤ lastOrdinal := by
  constructor
  · rintro ⟨d, rfl⟩
    have hpos : 1 ≤ d.ordinal := Nat.one_le_of_lt (lt_ordinal d)
    exact ⟨by exact_mod_cast hpos, by exact_mod_cast ordinal_le_last d⟩
  · rintro ⟨hi, hlast⟩
    obtain ⟨d, hd⟩ := exists_ofOrdinal? hi hlast
    exact ⟨d, ordinal_of_ofOrdinal? hd⟩

end Date

end Tabular.Calendar
