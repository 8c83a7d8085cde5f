import Tabular.Calendar.Format
import Tabular.Proofs.Calendar.Matching
import Tabular.Proofs.Calendar.Ordinal
import Tabular.Proofs.Rule.Comparison

/-!
# Days in writing

Under the format of a year, a month and a day with hyphens between them, a text is read exactly if it names a day
of the calendar. Month and day need no zero in front, and a day may have a blank in its place. Digits of any script
are read in the year and at the end of a day from the tenth to the twenty-ninth.

* `NamesDay`: a text names a day.
* `match?_day_iff`: the pattern of a day matches exactly the parts of such a text.
* `ofFormat_day`: reading under the format gives the day at midnight, or nothing.
-/

namespace Tabular.Calendar

open Text Expression

/-- The month in writing, in two digits or without the leading zero. -/
inductive IsMonth : List Char → Prop where
  | one {c} : '1' ≤ c → c ≤ '9' → IsMonth [c]
  | zero {c} : '1' ≤ c → c ≤ '9' → IsMonth ['0', c]
  | ten {c} : '0' ≤ c → c ≤ '2' → IsMonth ['1', c]

/-- The day of the month in writing, in two digits, or with a blank for the leading zero or nothing at all. -/
inductive IsDay : List Char → Prop where
  | one {c} : '1' ≤ c → c ≤ '9' → IsDay [c]
  | blank {c} : '1' ≤ c → c ≤ '9' → IsDay [' ', c]
  | zero {c} : '1' ≤ c → c ≤ '9' → IsDay ['0', c]
  | ten {tens c} : '1' ≤ tens → tens ≤ '2' → isDigit c = true → IsDay [tens, c]
  | thirty {c} : '0' ≤ c → c ≤ '1' → IsDay ['3', c]

/-- A month is written with at most two digits. -/
lemma IsMonth.length_le {cs : List Char} (h : IsMonth cs) : cs.length ≤ 2 := by
  cases h <;> simp

/-- A day is written with at most two characters. -/
lemma IsDay.length_le {cs : List Char} (h : IsDay cs) : cs.length ≤ 2 := by
  cases h <;> simp

/-- A text that names a day by its year in four digits, its month and its number in the month. -/
inductive NamesDay : List Char → Date → Prop where
  | intro {year month day d} : year.length = 4 → Decimal.AreDigits year → IsMonth month → IsDay day →
    d.year = digitsValue year → d.month = digitsValue month → d.day = digitsValue day →
    NamesDay (year ++ '-' :: (month ++ '-' :: day)) d

/-- Texts that name a day are short. -/
lemma NamesDay.length_le {cs : List Char} {d : Date} (h : NamesDay cs d) : cs.length ≤ 10 := by
  obtain ⟨hyear, -, hmonth, hday, -, -, -⟩ := h
  have hmonth : _ ≤ 2 := hmonth.length_le
  have hday : _ ≤ 2 := hday.length_le
  simp only [List.length_append, List.length_cons]
  omega

/-- The date and time at which a day begins. -/
def DateTime.midnight (d : Date) : DateTime :=
  ⟨d, 0, by decide⟩

/-- The pattern of a year, a month and a day. -/
def Pattern.day : Pattern :=
  [.field .year, .literal '-', .field .month, .literal '-', .field .day]

variable {cs year month day : List Char} {captures : List Capture} {d : Date}

/-- A year is written with exactly four digits. -/
lemma describes_year_iff : Directive.year.expression.Describes year ↔ year.length = 4 ∧ Decimal.AreDigits year := by
  show (sequence (List.replicate 4 (one .digit))).Describes year ↔ _
  exact describes_sequence_replicate

/-- What is searched for as a month is one. -/
lemma isMonth_of_describes (h : Directive.month.expression.Describes month) : IsMonth month := by
  rcases h with h | h | h
  · obtain ⟨c, hc, rfl⟩ := (describes_both_char_interval_iff (by decide)).mp h
    exact .ten hc.1 hc.2
  · obtain ⟨c, hc, rfl⟩ := (describes_both_char_interval_iff (by decide)).mp h
    exact .zero hc.1 hc.2
  · obtain ⟨c, hc, rfl⟩ := describes_interval_iff.mp h
    exact .one hc.1 hc.2

/-- What is searched for as a day is one. -/
lemma isDay_of_describes (h : Directive.day.expression.Describes day) : IsDay day := by
  rcases h with h | h | h | h | h
  · obtain ⟨c, hc, rfl⟩ := (describes_both_char_interval_iff (by decide)).mp h
    exact .thirty hc.1 hc.2
  · obtain ⟨_, _, hfirst, ⟨c, hc, rfl⟩, rfl⟩ := h
    obtain ⟨tens, htens, rfl⟩ := describes_interval_iff.mp hfirst
    exact .ten htens.1 htens.2 hc
  · obtain ⟨c, hc, rfl⟩ := (describes_both_char_interval_iff (by decide)).mp h
    exact .zero hc.1 hc.2
  · obtain ⟨c, hc, rfl⟩ := describes_interval_iff.mp h
    exact .one hc.1 hc.2
  · obtain ⟨c, hc, rfl⟩ := (describes_both_char_interval_iff (by decide)).mp h
    exact .blank hc.1 hc.2

/-- Four digits are cut off as a year at once. -/
lemma head?_splits_year (hlength : year.length = 4) (hyear : Decimal.AreDigits year) (rest : List Char) :
    (Directive.year.expression.splits (year ++ rest)).head? = some (year, rest) := by
  have h : (sequence (List.replicate year.length (one .digit))).splits (year ++ rest) = [(year, rest)] :=
    splits_sequence_replicate hyear
  rw [hlength] at h
  exact congrArg List.head? h

/-- The alternatives of a month in the order of preference: two digits before one. -/
lemma splits_month (cs : List Char) : Directive.month.expression.splits cs =
    (both (char '1') (interval '0' '2')).splits cs ++
      ((both (char '0') (interval '1' '9')).splits cs ++ (interval '1' '9').splits cs) :=
  rfl

/-- In front of a hyphen the preferred stretch of a month is all of it. -/
lemma head?_splits_month (h : IsMonth month) (rest : List Char) :
    (Directive.month.expression.splits (month ++ '-' :: rest)).head? = some (month, '-' :: rest) := by
  rw [splits_month, char, char, interval, interval]
  cases h with
  | one hlow hhigh =>
    simp +decide [splits_one, splits_both_one, CharClass.holds_between_iff, hlow, hhigh]
  | zero hlow hhigh =>
    simp +decide [splits_one, splits_both_one, CharClass.holds_between_iff, hlow, hhigh]
  | ten hlow hhigh =>
    simp +decide [splits_one, splits_both_one, CharClass.holds_between_iff, hlow, hhigh]

/-- The alternatives of a day in the order of preference: two digits before one, a blank with a digit last. -/
lemma splits_day (cs : List Char) : Directive.day.expression.splits cs =
    (both (char '3') (interval '0' '1')).splits cs ++ ((both (interval '1' '2') digit).splits cs ++
      ((both (char '0') (interval '1' '9')).splits cs ++ ((interval '1' '9').splits cs ++
        (both (char ' ') (interval '1' '9')).splits cs))) :=
  rfl

/-- At the end of a text the preferred stretch of a day is all of it. -/
lemma head?_splits_day (h : IsDay day) : (Directive.day.expression.splits day).head? = some (day, []) := by
  rw [splits_day, char, char, char, interval, interval, interval, digit]
  cases h with
  | one hlow hhigh =>
    simp [splits_one, splits_both_one_singleton, CharClass.holds_between_iff, hlow, hhigh]
  | blank hlow hhigh =>
    simp +decide [splits_one, splits_both_one, CharClass.holds_between_iff, hlow, hhigh]
  | zero hlow hhigh =>
    simp +decide [splits_one, splits_both_one, CharClass.holds_between_iff, hlow, hhigh]
  | @ten tens c hlow hhigh hdigit =>
    have hne : (CharClass.letter '3').holds tens = false := by
      rw [← Bool.not_eq_true, CharClass.holds_letter_iff (by decide)]
      rintro rfl
      exact absurd hhigh (by decide)
    simp [splits_both_one, CharClass.holds_between_iff, CharClass.holds_digit, hlow, hhigh, hne, hdigit]
  | thirty hlow hhigh =>
    simp +decide [splits_one, splits_both_one, CharClass.holds_between_iff, hlow, hhigh]

/-- A hyphen is cut off at once. -/
lemma head?_splits_hyphen (rest : List Char) :
    ((PatternItem.literal '-').expression.splits ('-' :: rest)).head? = some (['-'], rest) := by
  have h : (CharClass.letter '-').holds '-' = true := (CharClass.holds_letter_iff (by decide)).mpr rfl
  rw [PatternItem.expression, char, splits_one, if_pos h]
  rfl

/-- A text of the three fields is matched, and only such a text is. -/
lemma match?_day_iff : Pattern.day.match? cs = some captures ↔
    ∃ year month day, (year.length = 4 ∧ Decimal.AreDigits year) ∧ IsMonth month ∧ IsDay day ∧
      cs = year ++ '-' :: (month ++ '-' :: day) ∧ captures = [(.year, year), (.month, month), (.day, day)] := by
  constructor
  · intro h
    obtain ⟨year, _, _, hyear, behindYear, rfl, rfl⟩ := (Pattern.matches_of_match? h).exists_of_cons
    obtain ⟨_, _, _, hfirst, beforeMonth, rfl, rfl⟩ := behindYear.exists_of_cons
    obtain ⟨month, _, _, hmonth, behindMonth, rfl, rfl⟩ := beforeMonth.exists_of_cons
    obtain ⟨_, _, _, hsecond, beforeDay, rfl, rfl⟩ := behindMonth.exists_of_cons
    obtain ⟨day, _, _, hday, behindDay, rfl, rfl⟩ := beforeDay.exists_of_cons
    cases behindDay
    rw [(describes_char_iff (by decide)).mp hfirst, (describes_char_iff (by decide)).mp hsecond, List.append_nil]
    exact ⟨year, month, day, describes_year_iff.mp hyear, isMonth_of_describes hmonth, isDay_of_describes hday,
      rfl, rfl⟩
  · rintro ⟨year, month, day, ⟨hlength, hyear⟩, hmonth, hday, rfl, rfl⟩
    have hstart : Pattern.matchStart? Pattern.day (year ++ '-' :: (month ++ '-' :: day)) =
        some ([(.year, year), (.month, month), (.day, day)], []) :=
      Pattern.matchStart?_of_head? (head?_splits_year hlength hyear _) <|
        Pattern.matchStart?_of_head? (head?_splits_hyphen _) <|
          Pattern.matchStart?_of_head? (head?_splits_month hmonth day) <|
            Pattern.matchStart?_of_head? (head?_splits_hyphen day) <|
              Pattern.matchStart?_of_head? (head?_splits_day hday) rfl
    rw [Pattern.match?, hstart]

/-- The fields of a year, a month and a day give the day of that date, if there is one, at midnight. -/
lemma resolve?_day (iso : IsoRule) (y m n : Nat) : Fields.resolve? iso { year := some y, month := m, day := n } =
    (Date.of? y m n).map fun d => (DateTime.midnight d, none) := by
  have hmidnight (d : Date) : DateTime.ofDate? d 0 0 0 0 = some (.midnight d) := by
    rw [DateTime.ofDate?, dif_pos ⟨by decide, by decide, by decide, by decide⟩]
    rfl
  have hconsistent : Fields.isoConsistent iso { year := some y, month := m, day := n } = true := by
    cases iso <;> rfl
  simp [Fields.resolve?, hconsistent, Fields.date?, Fields.yearAndDay?, Fields.baseYear,
    Fields.isYearlessLeapDay, hmidnight, Option.map_eq_bind]

/-- Three captured numbers are resolved to the midnight of the date that they are, if they are one. -/
lemma resolve?_captures (iso : IsoRule) (year month day : List Char) :
    (Fields.ofCaptures? [(.year, year), (.month, month), (.day, day)]).bind (Fields.resolve? iso) =
      (Date.of? (digitsValue year) (digitsValue month) (digitsValue day)).map fun d => (.midnight d, none) :=
  resolve?_day iso _ _ _

/-- The pattern of a day is found in exactly the texts that name one, and gives its midnight. -/
lemma ofPattern?_day_iff {iso : IsoRule} {t : DateTime} {o : Option Offset} :
    DateTime.ofPattern? iso Pattern.day cs = some (t, o) ↔ ∃ d, NamesDay cs d ∧ t = .midnight d ∧ o = none := by
  rw [DateTime.ofPattern?, Option.bind_eq_some_iff]
  constructor
  · rintro ⟨captures, hmatch, h⟩
    obtain ⟨year, month, day, ⟨hlength, hyear⟩, hmonth, hday, rfl, rfl⟩ := match?_day_iff.mp hmatch
    rw [resolve?_captures, Option.map_eq_some_iff] at h
    obtain ⟨d, hd, h⟩ := h
    cases h
    obtain ⟨hy, hm, hn⟩ := Date.of?_eq_some_iff.mp hd
    exact ⟨d, .intro hlength hyear hmonth hday hy hm hn, rfl, rfl⟩
  · rintro ⟨d, ⟨hlength, hyear, hmonth, hday, hy, hm, hn⟩, rfl, rfl⟩
    refine ⟨_, match?_day_iff.mpr ⟨_, _, _, ⟨hlength, hyear⟩, hmonth, hday, rfl, rfl⟩, ?_⟩
    rw [resolve?_captures, Date.of?_eq_some_iff.mpr ⟨hy, hm, hn⟩]
    rfl

/-- A text is read as the day that it names, at midnight, and not at all if it names none. -/
lemma ofFormat_day (iso : IsoRule) (cs : List Char) :
    (∀ d, NamesDay cs d → DateTime.ofFormat iso "%Y-%m-%d".toList cs = .ok (some (.midnight d))) ∧
      ((∀ d, ¬ NamesDay cs d) → DateTime.ofFormat iso "%Y-%m-%d".toList cs = .ok none) := by
  have hpattern : Pattern.ofChars? "%Y-%m-%d".toList = some Pattern.day := by decide
  have hrepeated : Pattern.day.repeated? = none := by decide
  rw [DateTime.ofFormat, hpattern]
  dsimp only
  rw [hrepeated]
  dsimp only
  constructor
  · intro d hd
    rw [ofPattern?_day_iff.mpr ⟨d, hd, rfl, rfl⟩]
    rfl
  · intro hnone
    cases h : DateTime.ofPattern? iso Pattern.day cs with
    | none => rfl
    | some found =>
      obtain ⟨d, hd, -⟩ := ofPattern?_day_iff.mp h
      exact absurd hd (hnone d)

end Tabular.Calendar
