import Tabular.Proofs.Calendar.Writing
import Tabular.Proofs.Outcome

/-!
# Universal time in writing

The text of a date and time in universal time names its instant to the millisecond: it is read back as the
numbers of the calendar for that instant, and two texts agree exactly if the milliseconds of the instants do.
All texts have the same form but for the digits of the year, and those of one length are ordered in time.

* `universal_eq_error_iff_and_toText_eq_iff`: when there is a text of an instant, and what it tells.
* `follows_toText_and_lt_iff`: the form of the texts, and their order.
-/

namespace Tabular.Calendar

open WrittenField

/-- The numbers of a text of universal time; what is finer than milliseconds counts as zero. -/
def Reading.ofChars? (cs : List Char) : Option Reading :=
  match readFields? "--T::.Z".toList cs with
  | some [year, month, day, hour, minute, second, millisecond] =>
    some ⟨year, month, day, hour, minute, second, millisecond * 1000⟩
  | _ => none

namespace DateTime

variable {t u : DateTime} {r : Reading}

/-- The seven numbers that name a date and time. -/
def reading (u : DateTime) : Reading :=
  ⟨u.date.year, u.date.month, u.date.day, (u.sinceMidnight / second / 3600 : Nat),
    (u.sinceMidnight / second / 60 % 60 : Nat), (u.sinceMidnight / second % 60 : Nat),
    (u.sinceMidnight % second : Nat)⟩

/-- A date and a time of the day make up what has the one as its date and the other as its parts. -/
lemma ofDate?_eq_some_iff {date : Date} {h m s us : Nat} : ofDate? date h m s us = some u ↔ u.date = date ∧
    u.sinceMidnight / second / 3600 = h ∧ u.sinceMidnight / second / 60 % 60 = m ∧
      u.sinceMidnight / second % 60 = s ∧ u.sinceMidnight % second = us := by
  have hwithin := u.within_day
  simp only [dayLength, daySeconds] at hwithin
  rw [show second = 1000000 from rfl] at hwithin ⊢
  constructor
  · intro hu
    unfold ofDate? at hu
    split at hu
    · rename_i hv
      cases hu
      refine ⟨rfl, ?_⟩
      dsimp only
      rw [show second = 1000000 from rfl] at hv ⊢
      omega
    · cases hu
  · rintro ⟨rfl, rfl, rfl, rfl, rfl⟩
    rw [ofDate?, dif_pos (by rw [show second = 1000000 from rfl]; omega)]
    refine congrArg some (eq_of_parts rfl ?_)
    show _ = u.sinceMidnight
    dsimp only
    rw [show second = 1000000 from rfl]
    omega

/-- A date and time is named by its own seven numbers only. -/
lemma ofReading_eq_ok_iff : ofReading r = .ok u ↔ r = u.reading := by
  obtain ⟨year, month, day, hour, minute, sec, microsecond⟩ := r
  have hmade : ofReading ⟨year, month, day, hour, minute, sec, microsecond⟩ = .ok u ↔
      (0 ≤ year ∧ 0 ≤ month ∧ 0 ≤ day ∧ 0 ≤ hour ∧ 0 ≤ minute ∧ 0 ≤ sec ∧ 0 ≤ microsecond) ∧
        ∃ date, Date.of? year.toNat month.toNat day.toNat = some date ∧
          ofDate? date hour.toNat minute.toNat sec.toNat microsecond.toNat = some u := by
    unfold ofReading
    by_cases h : 0 ≤ year ∧ 0 ≤ month ∧ 0 ≤ day ∧ 0 ≤ hour ∧ 0 ≤ minute ∧ 0 ≤ sec ∧ 0 ≤ microsecond
    · dsimp only
      rw [if_pos h, and_iff_right h]
      simp only [← Option.bind_eq_some_iff, Option.bind_eq_bind]
      generalize (Date.of? year.toNat month.toNat day.toNat).bind _ = made
      cases made with
      | none => exact ⟨nofun, nofun⟩
      | some v => rw [Option.elim_some, Except.ok.injEq, Option.some.injEq]
    · dsimp only
      rw [if_neg h]
      exact ⟨nofun, fun hu => absurd hu.1 h⟩
  rw [hmade, reading]
  simp only [Date.of?_eq_some_iff, ofDate?_eq_some_iff, Reading.mk.injEq]
  constructor
  · rintro ⟨⟨hy, hm, hd, hh, hmin, hs, hus⟩, date, ⟨hyear, hmonth, hday⟩, rfl, hhour, hminute, hsec, hmicrosecond⟩
    have natural {a : Int} {n : Nat} (ha : 0 ≤ a) (hn : n = a.toNat) : a = n := by omega
    exact ⟨natural hy hyear, natural hm hmonth, natural hd hday, natural hh hhour, natural hmin hminute,
      natural hs hsec, natural hus hmicrosecond⟩
  · rintro ⟨rfl, rfl, rfl, rfl, rfl, rfl, rfl⟩
    exact ⟨⟨Int.natCast_nonneg _, Int.natCast_nonneg _, Int.natCast_nonneg _, Int.natCast_nonneg _,
      Int.natCast_nonneg _, Int.natCast_nonneg _, Int.natCast_nonneg _⟩, u.date, ⟨rfl, rfl, rfl⟩, rfl, rfl, rfl, rfl, rfl⟩

/-- What is written of a date and time is read back. -/
lemma ofChars?_toChars (u : DateTime) :
    Reading.ofChars? u.toChars = some { u.reading with microsecond := u.reading.microsecond / 1000 * 1000 } := by
  have hread : readFields? "--T::.Z".toList u.toChars = some u.numbers := readFields?_toChars u
  rw [Reading.ofChars?, hread]
  simp [numbers, reading]

/-- Texts agree exactly if the instants agree to the millisecond. -/
lemma toText_eq_iff : t.toText = u.toText ↔ t.instant / 1000 = u.instant / 1000 := by
  rw [← numbers_eq_iff, ← toChars_eq_iff, toText, toText]
  exact ⟨fun h => by simpa using congrArg String.toList h, fun h => congrArg String.ofList h⟩

/-- The shape of the text of a date and time: a year in as few digits as it takes, all else in fixed widths. -/
lemma follows_toText (t : DateTime) : Follows
    (List.replicate (Integer.naturalChars t.date.year).length 'd' ++ "-dd-ddTdd:dd:dd.dddZ".toList) t.toText.toList := by
  have hmarks : ∀ f ∈ t.fields, f.mark ≠ 'd' := by
    simp [fields, field]
  have hfollows := follows_writeAll hmarks
  rw [map_layout_fields, ← toChars_eq_writeAll] at hfollows
  rw [toText, String.toList_ofList]
  simpa using hfollows

/-- All but the year takes up twenty characters. -/
lemma length_toText (t : DateTime) : t.toText.length = (Integer.naturalChars t.date.year).length + 20 := by
  have h := (follows_toText t).length_eq
  rw [List.length_append, List.length_replicate, String.length_toList] at h
  exact h.symm

/-- Texts of one length are ordered as their instants follow each other. -/
lemma toText_lt_iff (h : t.toText.length = u.toText.length) :
    t.toText < u.toText ↔ t.instant / 1000 < u.instant / 1000 := by
  have hlayout : t.fields.map layout = u.fields.map layout := by
    rw [length_toText, length_toText] at h
    rw [map_layout_fields, map_layout_fields, Nat.add_right_cancel h]
  rw [← numbers_lt_iff, ← map_value_fields, ← map_value_fields, ← writeAll_lt_iff hlayout, String.lt_iff]
  simp only [toText, String.toList_ofList, toChars_eq_writeAll]

/-- The text has the length of the documented form from the year 1000 on. -/
lemma length_toText_eq_iff (t : DateTime) : t.toText.length = 24 ↔ 1000 ≤ t.date.year := by
  have hfour : (Integer.naturalChars t.date.year).length ≤ 4 ↔ t.date.year < 10 ^ 4 :=
    Nat.length_toDigits_le_iff (by decide) (by decide)
  have hthree : (Integer.naturalChars t.date.year).length ≤ 3 ↔ t.date.year < 10 ^ 3 :=
    Nat.length_toDigits_le_iff (by decide) (by decide)
  have hyear : t.date.year ≤ 9999 := t.date.isDate.1.2
  rw [length_toText]
  omega

/-- Universal time fails exactly where no year of the calendar has the instant. Otherwise the text is read back
as the numbers of the calendar for the instant, to the millisecond, and two texts agree exactly if their instants
agree to the millisecond, whatever the offsets are. -/
theorem universal_eq_error_iff_and_toText_eq_iff (t t' : DateTime) (o o' : Option Offset) :
    (∀ e, t.universal o = .error e ↔ e = .outOfRange ∧ ¬ ∃ u : DateTime, u.instant = t.instantAt o) ∧
    ((∃ u : DateTime, u.instant = t.instantAt o) ↔ firstInstant ≤ t.instantAt o ∧ t.instantAt o < endInstant) ∧
    (∀ text, (t.universal o).map toText = .ok text → ∃ u r, u.instant = t.instantAt o ∧ ofReading r = .ok u ∧
      Reading.ofChars? text.toList = some { r with microsecond := r.microsecond / 1000 * 1000 }) ∧
    ∀ text text', (t.universal o).map toText = .ok text → (t'.universal o').map toText = .ok text' →
      (text = text' ↔ t.instantAt o / 1000 = t'.instantAt o' / 1000) := by
  refine ⟨fun e => ?_, exists_instant_iff, ?_, ?_⟩
  · rw [universal_eq_error_iff, exists_instant_iff]
  · intro text htext
    obtain ⟨u, hu, rfl⟩ := map_eq_ok_iff.mp htext
    refine ⟨u, u.reading, universal_eq_ok_iff.mp hu, ofReading_eq_ok_iff.mpr rfl, ?_⟩
    rw [toText, String.toList_ofList]
    exact ofChars?_toChars u
  · intro text text' htext htext'
    obtain ⟨u, hu, rfl⟩ := map_eq_ok_iff.mp htext
    obtain ⟨u', hu', rfl⟩ := map_eq_ok_iff.mp htext'
    rw [toText_eq_iff, universal_eq_ok_iff.mp hu, universal_eq_ok_iff.mp hu']

/-- A clock two hours ahead in the new day, and a clock of universal time in the old one. -/
theorem universal_eq_error_iff_and_toText_eq_iff_midnight :
    (universal ⟨⟨2013, 1, 2, by decide⟩, 5400250000, by decide⟩ (some ⟨7200000000, by decide⟩)).map toText =
      .ok "2013-01-01T23:30:00.250Z" ∧
    (universal ⟨⟨2013, 1, 1, by decide⟩, 84600250999, by decide⟩ none).map toText =
      .ok "2013-01-01T23:30:00.250Z" ∧
    instantAt ⟨⟨2013, 1, 2, by decide⟩, 5400250000, by decide⟩ (some ⟨7200000000, by decide⟩) / 1000 =
      instantAt ⟨⟨2013, 1, 1, by decide⟩, 84600250999, by decide⟩ none / 1000 := by
  have h : (universal ⟨⟨2013, 1, 2, by decide⟩, 5400250000, by decide⟩ (some ⟨7200000000, by decide⟩)).map toText =
      .ok "2013-01-01T23:30:00.250Z" := rfl
  have h' : (universal ⟨⟨2013, 1, 1, by decide⟩, 84600250999, by decide⟩ none).map toText =
      .ok "2013-01-01T23:30:00.250Z" := rfl
  exact ⟨h, h', ((universal_eq_error_iff_and_toText_eq_iff _ _ _ _).2.2.2 _ _ h h').mp rfl⟩

/-- In universal time all texts have one form, with as many digits of the year as it has: four from the year 1000
on, and then 24 characters in all. Texts of one length are ordered like the milliseconds of their instants. -/
theorem follows_toText_and_lt_iff {t t' u u' : DateTime} {o o' : Option Offset} (h : t.universal o = .ok u)
    (h' : t'.universal o' = .ok u') :
    Follows (List.replicate (Integer.naturalChars u.date.year).length 'd' ++ "-dd-ddTdd:dd:dd.dddZ".toList)
      u.toText.toList ∧
    (1000 ≤ u.date.year → Follows "dddd-dd-ddTdd:dd:dd.dddZ".toList u.toText.toList) ∧
    (u.toText.length = 24 ↔ 1000 ≤ u.date.year) ∧
    (u.toText.length = u'.toText.length →
      (u.toText < u'.toText ↔ t.instantAt o / 1000 < t'.instantAt o' / 1000)) := by
  refine ⟨follows_toText u, ?_, length_toText_eq_iff u, ?_⟩
  · intro hyear
    have hfollows := follows_toText u
    have hlength := (length_toText_eq_iff u).mpr hyear
    rw [length_toText] at hlength
    rw [Nat.add_right_cancel (hlength : _ = 4 + 20)] at hfollows
    exact hfollows
  · intro hlength
    rw [toText_lt_iff hlength, universal_eq_ok_iff.mp h, universal_eq_ok_iff.mp h']

/-- The last millisecond of a leap day, and the beginning of the next day on a clock that is an hour behind. -/
theorem follows_toText_and_lt_iff_leap_day :
    universal ⟨⟨2024, 2, 29, by decide⟩, 86399999999, by decide⟩ none =
      .ok ⟨⟨2024, 2, 29, by decide⟩, 86399999999, by decide⟩ ∧
    universal ⟨⟨2024, 2, 29, by decide⟩, 82800000000, by decide⟩ (some ⟨-3600000000, by decide⟩) =
      .ok ⟨⟨2024, 3, 1, by decide⟩, 0, by decide⟩ ∧
    Follows "dddd-dd-ddTdd:dd:dd.dddZ".toList
      (toText ⟨⟨2024, 2, 29, by decide⟩, 86399999999, by decide⟩).toList ∧
    toText ⟨⟨2024, 2, 29, by decide⟩, 86399999999, by decide⟩ <
      toText ⟨⟨2024, 3, 1, by decide⟩, 0, by decide⟩ := by
  have h : universal ⟨⟨2024, 2, 29, by decide⟩, 86399999999, by decide⟩ none =
      .ok ⟨⟨2024, 2, 29, by decide⟩, 86399999999, by decide⟩ := rfl
  have h' : universal ⟨⟨2024, 2, 29, by decide⟩, 82800000000, by decide⟩ (some ⟨-3600000000, by decide⟩) =
      .ok ⟨⟨2024, 3, 1, by decide⟩, 0, by decide⟩ := rfl
  obtain ⟨-, hform, -, horder⟩ := follows_toText_and_lt_iff h h'
  have hlength : (toText ⟨⟨2024, 2, 29, by decide⟩, 86399999999, by decide⟩).length =
      (toText ⟨⟨2024, 3, 1, by decide⟩, 0, by decide⟩).length := by
    rw [length_toText, length_toText]
  exact ⟨h, h', hform (by decide), (horder hlength).mpr (by decide)⟩

/-- The text of the first day has only one digit for the year, and the years before 1000 come last in the order of
the texts. -/
theorem toText_first_day :
    (universal ⟨⟨1, 1, 1, by decide⟩, 0, by decide⟩ none).map toText = .ok "1-01-01T00:00:00.000Z" ∧
    (universal ⟨⟨1000, 1, 1, by decide⟩, 0, by decide⟩ none).map toText = .ok "1000-01-01T00:00:00.000Z" ∧
    "1-01-01T00:00:00.000Z".length ≠ 24 ∧
    (universal ⟨⟨999, 12, 31, by decide⟩, 0, by decide⟩ none).map toText = .ok "999-12-31T00:00:00.000Z" ∧
    "1000-01-01T00:00:00.000Z" < "999-12-31T00:00:00.000Z" := by
  refine ⟨rfl, rfl, by decide, rfl, by decide⟩

end DateTime

end Tabular.Calendar
