import Tabular.Operation
import Tabular.Proofs.Calendar.DayText
import Tabular.Proofs.Calendar.Universal
import Tabular.Proofs.Operation.Aborting
import Tabular.Proofs.Operation.Places

/-!
# A bare demand for dates

Asked for dates without a format, an interpretation changes exactly the texts that name a day of the calendar,
and it never fails. A text that it changes becomes the written form of the day at midnight.

* `Interpretation.defaultDates`: the bare demand.
* `cell?_interpret_defaultDates`: which cells it changes, and into what.
-/

namespace Tabular

open Calendar

/-- Dates under the default format, in all rows and columns. -/
def Interpretation.defaultDates : Interpretation :=
  ⟨false, [], some defaultDateFormat, .any, .any⟩

variable {iso : IsoRule} {s : String} {d : Date} {row column : Nat} {c : Cell}

/-- The written form of a day with its time is longer than any text that names a day. -/
lemma Calendar.NamesDay.toText_ne (h : NamesDay s.toList d) (t : DateTime) : t.toText ≠ s := by
  rintro rfl
  have hshort := h.length_le
  rw [String.length_toList, t.length_toText] at hshort
  omega

namespace Interpretation

/-- A bare demand for dates reads every cell as a date and does nothing else. -/
lemma readAt_defaultDates (iso : IsoRule) (row column : Nat) (c : Cell) :
    defaultDates.readAt iso row column c = defaultDates.readDate iso c := by
  have hkeep (c : Cell) : defaultDates.readNumber (defaultDates.readTruth c) = c := by
    cases c <;> rfl
  show (fun c => defaultDates.readNumber (defaultDates.readTruth c)) <$> defaultDates.readDate iso c = _
  simp only [hkeep, id_map']

/-- A text that names a day is read as the day at midnight. -/
lemma readAt_defaultDates_of_namesDay (h : NamesDay s.toList d) :
    defaultDates.readAt iso row column (.text s) = .ok (.text (DateTime.midnight d).toText) := by
  rw [readAt_defaultDates, readDate_text rfl, defaultDateFormat, (ofFormat_day iso s.toList).1 d h]
  rfl

/-- Any other cell is read as itself. -/
lemma readAt_defaultDates_of_not (h : ¬ ∃ s d, c = .text s ∧ NamesDay s.toList d) :
    defaultDates.readAt iso row column c = .ok c := by
  rw [readAt_defaultDates]
  cases c with
  | text s =>
    rw [readDate_text rfl, defaultDateFormat, (ofFormat_day iso s.toList).2 fun d hd => h ⟨s, d, rfl, hd⟩]
    rfl
  | _ => exact readDate_of_not_text nofun

/-- The default format names no field twice and no offset, so reading by it does not fail. -/
lemma exists_readAt_defaultDates (iso : IsoRule) (row column : Nat) (c : Cell) :
    ∃ c', defaultDates.readAt iso row column c = .ok c' := by
  by_cases h : ∃ s d, c = .text s ∧ NamesDay s.toList d
  · obtain ⟨s, d, rfl, h⟩ := h
    exact ⟨_, readAt_defaultDates_of_namesDay h⟩
  · exact ⟨c, readAt_defaultDates_of_not h⟩

end Interpretation

/-- A bare demand for dates is met in every table. The texts that name a day become the written form of that day
at midnight, in universal time; these are the only cells that change. -/
theorem cell?_interpret_defaultDates (iso : IsoRule) :
    Interpretation.parse defaultDateFormat (.record [("dates", .bool true)]) = .ok .defaultDates ∧
      ∀ t : Table, ∃ u, t.interpret iso .defaultDates = .ok u ∧ u.map List.length = t.map List.length ∧
        ∀ row column c, t.cell? row column = some c →
          (∀ s d, c = .text s → NamesDay s.toList d →
            u.cell? row column = some (.text (DateTime.midnight d).toText)) ∧
          (u.cell? row column ≠ some c ↔ ∃ s d, c = .text s ∧ NamesDay s.toList d) := by
  refine ⟨rfl, fun t => ?_⟩
  cases hu : t.interpret iso .defaultDates with
  | error e =>
    obtain ⟨row, column, c, -, herror⟩ := Table.exists_cell?_of_interpret_eq_error hu
    obtain ⟨c', hread⟩ := Interpretation.exists_readAt_defaultDates iso row column c
    cases hread.symm.trans herror
  | ok u =>
    refine ⟨u, rfl, ?_, fun row column c hc => ?_⟩
    · rw [Table.eq_mapPlaces_of_interpret hu, Table.map_length_mapPlaces]
    obtain ⟨c', hc', hread⟩ := Table.exists_cell?_of_interpret hu hc
    have named : ∀ s d, c = .text s → NamesDay s.toList d → c' = .text (DateTime.midnight d).toText := by
      rintro s d rfl hd
      exact Except.ok.inj (hread.symm.trans (Interpretation.readAt_defaultDates_of_namesDay hd))
    rw [hc']
    refine ⟨fun s d hs hd => congrArg some (named s d hs hd), ?_, ?_⟩
    · intro hne
      by_contra hnot
      exact hne (congrArg some (Except.ok.inj (hread.symm.trans (Interpretation.readAt_defaultDates_of_not hnot))))
    · rintro ⟨s, d, rfl, hd⟩ hsame
      have htext := (Option.some.inj hsame).symm.trans (named s d rfl hd)
      exact hd.toText_ne _ (Cell.text.inj htext).symm

/-- The last day of a February, with a digit of another script, beside a number. -/
theorem cell?_interpret_defaultDates_february :
    ∃ u, Table.interpret .strict .defaultDates [[.text "2024-2-2٩", .int 7]] = .ok u ∧
      u.cell? 0 0 = some (.text "2024-02-29T00:00:00.000Z") ∧ u.cell? 0 1 = some (.int 7) := by
  have hyear : Decimal.AreDigits ['2', '0', '2', '4'] := by decide
  have hday : NamesDay "2024-2-2٩".toList ⟨2024, 2, 29, by decide⟩ :=
    .intro (by decide) hyear (.one (by decide) (by decide)) (.ten (by decide) (by decide) (by decide))
      (by decide) (by decide) (by decide)
  have htext : (DateTime.midnight ⟨2024, 2, 29, by decide⟩).toText = "2024-02-29T00:00:00.000Z" := by decide
  obtain ⟨u, hu, -, hcells⟩ := (cell?_interpret_defaultDates .strict).2 [[.text "2024-2-2٩", .int 7]]
  have hchanged := (hcells 0 0 _ rfl).1 _ _ rfl hday
  rw [htext] at hchanged
  refine ⟨u, hu, hchanged, ?_⟩
  by_contra hne
  obtain ⟨s, d, hs, -⟩ := (hcells 0 1 _ rfl).2.mp hne
  cases hs

end Tabular
