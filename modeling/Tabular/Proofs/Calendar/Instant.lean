import Tabular.Calendar.Format
import Tabular.Proofs.Calendar.Ordinal

/-!
# Instants

Every instant of the calendar is that of exactly one date and time. What a clock with an offset shows is
moved back by the offset, and can be shown in universal time exactly if it is not moved out of the calendar.

* `exists_instant_iff`: which instants there are.
* `instant_injective`: none of them twice.
* `universal_eq_ok_iff`, `universal_eq_error_iff`: what becomes of a clock that is set to universal time.
* `Offset.of?_eq_some_iff`, `Offset.ofSeconds_eq_ok_iff`: offsets of microseconds and of seconds.
-/

namespace Tabular.Calendar

/-- The instant at which the first day of the calendar begins. -/
def firstInstant : Int :=
  dayLength

/-- The instant at which the last day of the calendar ends. -/
def endInstant : Int :=
  (Date.lastOrdinal + 1) * dayLength

/-- Days are not empty. -/
lemma dayLength_pos : (0 : Int) < dayLength := by
  decide

namespace Offset

variable {n : Int} {o : Offset}

/-- The offset of a count of microseconds has this count. -/
lemma of?_eq_some_iff : of? n = some o ↔ o.microseconds = n := by
  rw [of?]
  split
  · rw [Option.some.injEq]
    exact ⟨fun h => h ▸ rfl, fun h => by cases h; rfl⟩
  · rename_i hlong
    exact ⟨nofun, fun h => absurd (h ▸ o.less_than_day) hlong⟩

/-- The offset of a count of seconds has the microseconds of these. -/
lemma ofSeconds_eq_ok_iff : ofSeconds n = .ok o ↔ o.microseconds = n * second := by
  rw [ofSeconds, ← of?_eq_some_iff]
  cases of? (n * second) with
  | none => exact ⟨nofun, nofun⟩
  | some o' => simp

end Offset

namespace DateTime

variable {t u : DateTime} {o : Option Offset} {i : Int} {e : DateError}

/-- The instant that a clock with an offset shows as a date and time. -/
def instantAt (t : DateTime) (o : Option Offset) : Int :=
  t.instant - o.elim 0 Offset.microseconds

/-- A date and time is known by its date and the time since midnight. -/
lemma eq_of_parts (hdate : t.date = u.date) (htime : t.sinceMidnight = u.sinceMidnight) : t = u := by
  cases t
  cases u
  cases hdate
  cases htime
  rfl

/-- The whole days of an instant are the number of its date. -/
lemma instant_ediv (t : DateTime) : t.instant / dayLength = t.date.ordinal := by
  have hwithin : (t.sinceMidnight : Int) < dayLength := by exact_mod_cast t.within_day
  rw [instant, Int.add_comm, Int.add_mul_ediv_right _ _ dayLength_pos.ne',
    Int.ediv_eq_zero_of_lt (Int.natCast_nonneg _) hwithin, Int.zero_add]

/-- What is left of an instant without its whole days is the time since midnight. -/
lemma instant_emod (t : DateTime) : t.instant % dayLength = t.sinceMidnight := by
  have hwithin : (t.sinceMidnight : Int) < dayLength := by exact_mod_cast t.within_day
  rw [instant, Int.add_comm, Int.add_mul_emod_self_right, Int.emod_eq_of_lt (Int.natCast_nonneg _) hwithin]

/-- An instant is that of at most one date and time. -/
lemma ofInstant?_eq_some_iff : ofInstant? i = some u ↔ u.instant = i := by
  constructor
  · intro h
    obtain ⟨date, hdate, rfl⟩ := Option.map_eq_some_iff.mp h
    have hnonneg := Int.emod_nonneg i dayLength_pos.ne'
    rw [instant, Date.ofOrdinal?_eq_some_iff.mp hdate, Int.toNat_of_nonneg hnonneg]
    exact Int.mul_comm _ _ ▸ Int.mul_ediv_add_emod i dayLength
  · rintro rfl
    refine Option.map_eq_some_iff.mpr ⟨u.date, ?_, eq_of_parts rfl ?_⟩
    · rw [instant_ediv]
      exact Date.ofOrdinal?_eq_some_iff.mpr rfl
    · show (u.instant % dayLength).toNat = u.sinceMidnight
      rw [instant_emod, Int.toNat_natCast]

/-- Different dates and times are different instants. -/
lemma instant_injective : Function.Injective instant := by
  intro t u h
  have ht : ofInstant? t.instant = some t := ofInstant?_eq_some_iff.mpr rfl
  rw [ofInstant?_eq_some_iff.mpr h.symm] at ht
  exact (Option.some.inj ht).symm

/-- There is no gap between the first and the last instant of the calendar. -/
lemma exists_instant_iff : (∃ u : DateTime, u.instant = i) ↔ firstInstant ≤ i ∧ i < endInstant := by
  have hday : (∃ u : DateTime, u.instant = i) ↔ ∃ d : Date, (d.ordinal : Int) = i / dayLength := by
    simp only [← ofInstant?_eq_some_iff, ← Date.ofOrdinal?_eq_some_iff, ofInstant?, Option.map_eq_some_iff]
    exact ⟨fun ⟨_, date, hdate, _⟩ => ⟨date, hdate⟩, fun ⟨date, hdate⟩ => ⟨_, date, hdate, rfl⟩⟩
  rw [hday, Date.exists_ordinal_iff, firstInstant, endInstant, ← Int.ediv_lt_iff_lt_mul dayLength_pos,
    Int.lt_add_one_iff, Int.le_ediv_iff_mul_le dayLength_pos, Int.one_mul]

/-- Full milliseconds go by the days first and then by the time of the day. -/
lemma instant_ediv_lt_iff : t.instant / 1000 < u.instant / 1000 ↔
    t.date < u.date ∨ t.date = u.date ∧ t.sinceMidnight / 1000 < u.sinceMidnight / 1000 := by
  have ht := t.within_day
  have hu := u.within_day
  rw [← Date.ordinal_strictMono.lt_iff_lt, ← Date.ordinal_strictMono.injective.eq_iff, instant, instant]
  simp only [show dayLength = 86400000000 from rfl] at *
  omega

/-- Two dates and times are in the same millisecond exactly if they are on the same date, and since midnight. -/
lemma instant_ediv_eq_iff : t.instant / 1000 = u.instant / 1000 ↔
    t.date = u.date ∧ t.sinceMidnight / 1000 = u.sinceMidnight / 1000 := by
  have ht := t.within_day
  have hu := u.within_day
  rw [← Date.ordinal_strictMono.injective.eq_iff, instant, instant]
  simp only [show dayLength = 86400000000 from rfl] at *
  omega

/-- In universal time stands the date and time with the same instant. -/
lemma universal_eq_ok_iff : t.universal o = .ok u ↔ u.instant = t.instantAt o := by
  cases o with
  | none =>
    rw [universal, Except.ok.injEq, instantAt, Option.elim_none, Int.sub_zero, instant_injective.eq_iff, eq_comm]
  | some offset =>
    rw [universal, instantAt, Option.elim_some, ← ofInstant?_eq_some_iff, toUniversal?]
    cases ofInstant? (t.instant - offset.microseconds) with
    | none => exact ⟨nofun, nofun⟩
    | some v => rw [Option.elim_some, Except.ok.injEq, Option.some.injEq]

/-- Universal time fails exactly outside the calendar. -/
lemma universal_eq_error_iff :
    t.universal o = .error e ↔ e = .outOfRange ∧ ¬ (firstInstant ≤ t.instantAt o ∧ t.instantAt o < endInstant) := by
  rw [← exists_instant_iff]
  simp only [← universal_eq_ok_iff]
  cases o with
  | none => exact ⟨nofun, fun h => absurd ⟨t, rfl⟩ h.2⟩
  | some offset =>
    rw [universal]
    cases t.toUniversal? offset.microseconds with
    | none =>
      rw [Option.elim_none, Except.error.injEq, eq_comm]
      exact (and_iff_left (by rintro ⟨u, h⟩; cases h)).symm
    | some v => exact ⟨nofun, fun h => absurd ⟨v, rfl⟩ h.2⟩

end DateTime

end Tabular.Calendar
