import Tabular.Proofs.Calendar.Failure
import Tabular.Proofs.Operation.Interpretation
import Tabular.Proofs.Refinement.Eager

/-!
# Where interpreting fails

A text that no reading takes up stays as it is. But reading it as a date can fail, and then the whole table
is not read, nor does a refinement go on. This happens to texts only, and for the causes for which reading a
date fails. Nothing else fails in a refinement whose operations have been read.

* `Passes`: no reading takes up a text.
* `interpret_eq_error_iff`: an interpretation fails at a text that makes reading a date fail.
* `interpret_eq_error_iff_and_refine_eq_error_iff`: interpretations and refinements that fail.
-/

namespace Tabular

open Calendar DateTime

variable {iso : IsoRule} {r : Interpretation} {t u : Table} {row column : Nat} {c : Cell} {s format : String}
  {e : DateError}
  {o : Operation} {operations : List Operation} {k : Nat} {x : RefinementError}

namespace Interpretation

/-- Without a format for dates cells are left as they are. -/
lemma readDate_of_none (h : r.dates = none) : r.readDate iso c = .ok c := by
  simp only [readDate, h]

/-- Cells that are no texts are not read as dates. -/
lemma readDate_of_not_text (hc : ∀ s, c ≠ .text s) : r.readDate iso c = .ok c := by
  unfold readDate
  split
  · exact absurd rfl (hc _)
  · rfl

/-- A text that is read as a date becomes the text of it, another stays as it is. -/
lemma readDate_text (h : r.dates = some format) :
    r.readDate iso (.text s) = (fun d => .text (d.elim s toText)) <$> ofFormat iso format.toList s.toList := by
  simp only [readDate, h]
  show (ofFormat iso format.toList s.toList >>= _) = _
  cases ofFormat iso format.toList s.toList with
  | error e => rfl
  | ok d => cases d <;> rfl

/-- Only a text fails, and only as a date. -/
lemma read_eq_error_iff : r.read iso c = .error e ↔
    ∃ s format, c = .text s ∧ r.dates = some format ∧ Aborts iso format.toList s.toList e := by
  have hdate : r.read iso c = .error e ↔ r.readDate iso c = .error e :=
    map_eq_error_iff (f := fun c => r.readNumber (r.readTruth c))
  rw [hdate]
  constructor
  · intro h
    cases hdates : r.dates with
    | none =>
      rw [readDate_of_none hdates] at h
      cases h
    | some format =>
      cases c with
      | text s =>
        rw [readDate_text hdates, map_eq_error_iff, ofFormat_eq_error_iff] at h
        exact ⟨s, format, rfl, rfl, h⟩
      | _ =>
        rw [readDate_of_not_text (fun _ h => by cases h)] at h
        cases h
  · rintro ⟨s, format, rfl, hdates, h⟩
    rw [readDate_text hdates, map_eq_error_iff, ofFormat_eq_error_iff]
    exact h

/-- Interpreting a cell fails if it is in scope and reading it fails. -/
lemma readAt_eq_error_iff :
    r.readAt iso row column c = .error e ↔ inScope r.rows r.cols row column = true ∧ r.read iso c = .error e := by
  rw [readAt]
  split
  · rename_i hscope
    exact (and_iff_right hscope).symm
  · rename_i hscope
    constructor
    · intro h
      cases h
    · intro h
      exact absurd h.1 hscope

/-- None of the readings takes up a text. -/
structure Passes (iso : IsoRule) (r : Interpretation) (s : String) : Prop where
  date : ∀ format, r.dates = some format → ofFormat iso format.toList s.toList = .ok none
  truth : ∀ key ∈ [falseKey, trueKey], r.isWord key (.text s) = false
  number : r.numbers = true → readNumber? s = none

/-- A text that no reading takes up stays as it is. -/
lemma Passes.readAt_eq (h : r.Passes iso s) : r.readAt iso row column (.text s) = .ok (.text s) := by
  have hdate : r.readDate iso (.text s) = .ok (.text s) := by
    cases hdates : r.dates with
    | none => exact readDate_of_none hdates
    | some format =>
      rw [readDate_text hdates, h.date format hdates]
      rfl
  have htruth : r.readTruth (.text s) = .text s := by
    rw [readTruth, h.truth falseKey (by simp), h.truth trueKey (by simp)]
    rfl
  have hnumber : r.readNumber (.text s) = .text s := by
    rw [readNumber]
    split
    · rename_i hnumbers
      rw [interpretNumber, h.number hnumbers]
      rfl
    · rfl
  have hread : r.read iso (.text s) = .ok (.text s) := by
    rw [read, hdate]
    show Except.ok (r.readNumber (r.readTruth (.text s))) = _
    rw [htruth, hnumber]
  rw [readAt, hread]
  exact ite_self _

/-- The date format, if it is well formed, names no field twice. -/
def DistinctFields (r : Interpretation) : Prop :=
  ∀ format p, r.dates = some format → Pattern.ofChars? format.toList = some p → p.fields.Nodup

/-- The date format, if it is well formed, has no offset. -/
def NoOffset (r : Interpretation) : Prop :=
  ∀ format p, r.dates = some format → Pattern.ofChars? format.toList = some p → .offset ∉ p.fields

end Interpretation

namespace Table

/-- The failure of an interpretation is that of a cell of the table. -/
lemma exists_cell?_of_interpret_eq_error (h : t.interpret iso r = .error e) :
    ∃ row column c, t.cell? row column = some c ∧ r.readAt iso row column c = .error e := by
  obtain ⟨before, ⟨cells, row⟩, later, -, hrows, -, h⟩ := exists_of_mapM_eq_error h
  obtain ⟨before', ⟨c, column⟩, later', -, hcells, -, h⟩ := exists_of_mapM_eq_error h
  have hrow : (cells, row) ∈ t.zipIdx := hrows ▸ List.mem_append_right before List.mem_cons_self
  have hcolumn : (c, column) ∈ cells.zipIdx := hcells ▸ List.mem_append_right before' List.mem_cons_self
  rw [List.mem_zipIdx_iff_getElem?] at hrow hcolumn
  exact ⟨row, column, c, cell?_eq_some_iff.mpr ⟨cells, hrow, hcolumn⟩, h⟩

/-- Interpreting a table fails exactly if one of its texts fails, and for the cause of that text. -/
lemma interpret_eq_error_iff : t.interpret iso r = .error e ↔
    ∃ row column s format, t.cell? row column = some (.text s) ∧
      inScope r.rows r.cols row column = true ∧ r.dates = some format ∧ Aborts iso format.toList s.toList e := by
  have aborting : ∀ {e}, t.interpret iso r = .error e → ∃ row column s format, t.cell? row column = some (.text s) ∧
      inScope r.rows r.cols row column = true ∧ r.dates = some format ∧ Aborts iso format.toList s.toList e := by
    intro e h
    obtain ⟨row, column, c, hc, h⟩ := exists_cell?_of_interpret_eq_error h
    obtain ⟨hscope, h⟩ := Interpretation.readAt_eq_error_iff.mp h
    obtain ⟨s, format, rfl, hformat, h⟩ := Interpretation.read_eq_error_iff.mp h
    exact ⟨row, column, s, format, hc, hscope, hformat, h⟩
  refine ⟨aborting, ?_⟩
  rintro ⟨row, column, s, format, hc, hscope, hformat, h⟩
  cases hu : t.interpret iso r with
  | ok u =>
    obtain ⟨c', -, hread⟩ := exists_cell?_of_interpret hu hc
    have herror := Interpretation.readAt_eq_error_iff.mpr
      ⟨hscope, Interpretation.read_eq_error_iff.mpr ⟨s, format, rfl, hformat, h⟩⟩
    cases hread.symm.trans herror
  | error e' =>
    -- The first text that fails may be another one, but it fails under the same format.
    obtain ⟨_, _, _, format', _, _, hformat', h'⟩ := aborting hu
    cases hformat.symm.trans hformat'
    exact congrArg Except.error (h'.unique h)

/-- No text in scope shows the first or the last day of the calendar at an offset. -/
def AvoidsEnds (iso : IsoRule) (t : Table) (r : Interpretation) : Prop :=
  ∀ row column s format p d offset, t.cell? row column = some (.text s) →
    inScope r.rows r.cols row column = true → r.dates = some format → Pattern.ofChars? format.toList = some p →
    ofPattern? iso p s.toList = some (d, some offset) → d.date.ordinal ≠ 1 ∧ d.date.ordinal ≠ Date.lastOrdinal

/-- A format without an offset never shows an instant outside the calendar. -/
lemma avoidsEnds_of_noOffset (h : r.NoOffset) (t : Table) : t.AvoidsEnds iso r := by
  intro row column s format p d offset _ _ hformat hp hd
  cases offset_of_ofPattern? hd (h format p hformat hp)

/-- An interpretation without a repeated field, on a table that avoids the ends of the calendar, succeeds. -/
lemma exists_interpret (hdistinct : r.DistinctFields) (hends : t.AvoidsEnds iso r) :
    ∃ u, t.interpret iso r = .ok u := by
  cases hu : t.interpret iso r with
  | ok u => exact ⟨u, rfl⟩
  | error e =>
    obtain ⟨row, column, s, format, hc, hscope, hformat, h⟩ := interpret_eq_error_iff.mp hu
    obtain ⟨p, hp, -⟩ := h.exists_pattern
    obtain ⟨d, offset, hd, hday⟩ := h.exists_day hp (hdistinct format p hformat hp)
    obtain ⟨hfirst, hlast⟩ := hends row column s format p d offset hc hscope hformat hp hd
    exact absurd hday (not_or.mpr ⟨hfirst, hlast⟩)

end Table

/-- Of the operations that have been read, only the interpretation of texts fails. -/
lemma Operation.apply_eq_error_iff :
    o.apply iso t = .error e ↔ ∃ r, o = .interpret r ∧ t.interpret iso r = .error e := by
  cases o with
  | interpret r =>
    constructor
    · intro h
      exact ⟨r, rfl, h⟩
    · rintro ⟨_, hr, h⟩
      cases hr
      exact h
  | ignoreRows | ignoreColumns | replace | transpose => exact ⟨nofun, fun ⟨_, h, _⟩ => nomatch h⟩

/-- So a refinement by such operations fails where an interpretation fails on the table that it gets. -/
lemma refineFrom_parsed_eq_error_iff : refineFrom iso k (operations.map .parsed) t = .error x ↔
    ∃ before r later u e, operations = before ++ .interpret r :: later ∧
      before.foldlM (Operation.apply iso) t = .ok u ∧ u.interpret iso r = .error e ∧
      x = .step (k + before.length) OperationKind.interpret.name (.date e) := by
  constructor
  · intro h
    obtain ⟨_, _, _, u, _, hsteps, hbefore, hrun, rfl⟩ := refineFrom_eq_error_iff.mp h
    obtain ⟨before, _, rfl, rfl, hrest⟩ := List.map_eq_append_iff.mp hsteps
    obtain ⟨o, later, rfl, rfl, rfl⟩ := List.map_eq_cons_iff.mp hrest
    rw [Step.run_of_operation (s := .parsed o) rfl] at hrun
    obtain ⟨e, happly, rfl⟩ := mapError_eq_error_iff.mp hrun
    obtain ⟨r, rfl, hr⟩ := Operation.apply_eq_error_iff.mp happly
    refine ⟨before, r, later, u, e, rfl, refineFrom_parsed_eq_ok_iff.mp hbefore, hr, ?_⟩
    rw [List.length_map]
    rfl
  · rintro ⟨before, r, later, u, e, rfl, hbefore, h, rfl⟩
    have hrun : (Step.parsed (.interpret r)).run iso u = .error (.date e) := by
      rw [Step.run_of_operation (s := .parsed (.interpret r)) rfl, Operation.apply, h]
      rfl
    refine refineFrom_eq_error_iff.mpr ⟨before.map .parsed, .parsed (.interpret r), later.map .parsed, u, .date e,
      List.map_append, refineFrom_parsed_eq_ok_iff.mpr hbefore, hrun, ?_⟩
    rw [List.length_map]
    rfl

/-- Interpreting fails exactly if a text in scope fails as a date; what no reading takes up does not make it fail
and stays as it is. It succeeds if the format names no field twice and no text shows the first or the last day
of the calendar at an offset. And nothing else fails in a refinement by operations that have been read. -/
theorem interpret_eq_error_iff_and_refine_eq_error_iff (iso : IsoRule) (r : Interpretation) (t : Table)
    (operations : List Operation) :
    (∀ e, t.interpret iso r = .error e ↔
      ∃ row column s format, t.cell? row column = some (.text s) ∧
        inScope r.rows r.cols row column = true ∧ r.dates = some format ∧ Aborts iso format.toList s.toList e) ∧
    (r.DistinctFields → t.AvoidsEnds iso r → ∃ u, t.interpret iso r = .ok u) ∧
    (∀ u row column s, t.interpret iso r = .ok u → t.cell? row column = some (.text s) → r.Passes iso s →
      u.cell? row column = some (.text s)) ∧
    (∀ x, refine iso (operations.map .parsed) t.toCell = .error x ↔
      ∃ before r later u e, operations = before ++ .interpret r :: later ∧
        refine iso (before.map .parsed) t.toCell = .ok u ∧ u.interpret iso r = .error e ∧
        x = .step before.length OperationKind.interpret.name (.date e)) ∧
    ((∀ r, .interpret r ∈ operations → r.DistinctFields ∧ r.NoOffset) →
      ∃ u, refine iso (operations.map .parsed) t.toCell = .ok u) := by
  refine ⟨fun e => Table.interpret_eq_error_iff, Table.exists_interpret, ?kept, ?fails, ?succeeds⟩
  case kept =>
    intro u row column s hu hc h
    obtain ⟨c', hc', hread⟩ := Table.exists_cell?_of_interpret hu hc
    rw [h.readAt_eq] at hread
    cases hread
    exact hc'
  case fails =>
    intro x
    simp only [refine_toCell, refineFrom_parsed_eq_ok_iff, refineFrom_parsed_eq_error_iff, Nat.zero_add]
  case succeeds =>
    intro h
    rw [refine_toCell]
    cases hu : refineFrom iso 0 (operations.map .parsed) t with
    | ok u => exact ⟨u, rfl⟩
    | error x =>
      obtain ⟨before, r, later, u, e, rfl, -, hr, -⟩ := refineFrom_parsed_eq_error_iff.mp hu
      obtain ⟨hdistinct, hoffset⟩ := h r (List.mem_append_right before List.mem_cons_self)
      obtain ⟨v, hv⟩ := Table.exists_interpret hdistinct (Table.avoidsEnds_of_noOffset hoffset u)
      cases hr.symm.trans hv

/-- A week of an ISO year is on Monday the first day of the calendar. Beside a plain year, it is the strict rule
that takes it for a day, which begins too early at an offset to the east. -/
example :
    Table.interpret .strict ⟨false, [], some "%Y %G-%V-%u %z", .any, .any⟩ [[.text "2020 0001-01-1 +0100"]] =
      .error .outOfRange ∧
    Table.interpret .lenient ⟨false, [], some "%Y %G-%V-%u %z", .any, .any⟩ [[.text "2020 0001-01-1 +0100"]] =
      .ok [[.text "2020 0001-01-1 +0100"]] :=
  ⟨rfl, rfl⟩

/-- A day that there is not, next to a number, and a leap day at an offset. -/
theorem interpret_eq_error_iff_and_refine_eq_error_iff_february :
    Table.interpret .strict ⟨true, [], some "%d/%m/%Y", .any, .any⟩ [[.text "31/02/2020", .text "7"]] =
      .ok [[.text "31/02/2020", .int 7]] ∧
    Table.cell? [[.text "31/02/2020", .int 7]] 0 0 = some (.text "31/02/2020") ∧
    (∃ u, refine .strict ([.interpret ⟨true, [], some "%d/%m/%Y", .any, .any⟩].map .parsed)
      (Table.toCell [[.text "31/02/2020", .text "7"]]) = .ok u) ∧
    ∃ u, Table.interpret .strict ⟨false, [], some "%d/%m/%Y %z", .any, .any⟩ [[.text "29/02/2020 +0530"]] = .ok u := by
  have hread := interpret_eq_error_iff_and_refine_eq_error_iff .strict ⟨true, [], some "%d/%m/%Y", .any, .any⟩
    [[.text "31/02/2020", .text "7"]] [.interpret ⟨true, [], some "%d/%m/%Y", .any, .any⟩]
  have hleap := interpret_eq_error_iff_and_refine_eq_error_iff .strict ⟨false, [], some "%d/%m/%Y %z", .any, .any⟩
    [[.text "29/02/2020 +0530"]] []
  have hu : Table.interpret .strict ⟨true, [], some "%d/%m/%Y", .any, .any⟩ [[.text "31/02/2020", .text "7"]] =
      .ok [[.text "31/02/2020", .int 7]] := rfl
  refine ⟨hu, hread.2.2.1 _ 0 0 _ hu rfl ⟨?_, ?_, fun _ => rfl⟩, hread.2.2.2.2 ?_, hleap.2.1 ?_ ?_⟩
  · intro format hformat
    cases hformat
    rfl
  · intro key _
    rfl
  · intro r hr
    cases List.mem_singleton.mp hr
    constructor <;>
    · intro format p hformat hp
      cases hformat
      cases hp
      decide
  · intro format p hformat hp
    cases hformat
    cases hp
    decide
  · intro row column s format p d offset hc _ hformat hp hd
    -- The table has only one place.
    obtain ⟨cells, hrow, hcolumn⟩ := Table.cell?_eq_some_iff.mp hc
    cases List.mem_singleton.mp (List.mem_of_getElem? hrow)
    cases List.mem_singleton.mp (List.mem_of_getElem? hcolumn)
    cases hformat
    have hday : ((Pattern.ofChars? "%d/%m/%Y %z".toList).bind fun p =>
        (ofPattern? .strict p "29/02/2020 +0530".toList).map fun x => x.1.date.ordinal) = some 737484 := rfl
    rw [hp, Option.bind_some, hd, Option.map_some, Option.some.injEq] at hday
    rw [hday]
    decide

/-- The first day of the calendar begins too early at an offset to the east, and a format with two years is
refused by every text. In both cases nothing is read of the whole table. -/
theorem interpret_first_day_east :
    Interpretation.parse defaultDateFormat (.record [("dates", .text "%Y-%m-%d %z")]) =
      .ok ⟨false, [], some "%Y-%m-%d %z", .any, .any⟩ ∧
    Table.interpret .strict ⟨false, [], some "%Y-%m-%d %z", .any, .any⟩ [[.text "0001-01-01 +0100"]] =
      .error .outOfRange ∧
    Interpretation.parse defaultDateFormat (.record [("dates", .text "%Y-%Y")]) =
      .ok ⟨false, [], some "%Y-%Y", .any, .any⟩ ∧
    Table.interpret .strict ⟨false, [], some "%Y-%Y", .any, .any⟩ [[.text "x", .int 5]] =
      .error (.repeated ⟨'Y', 2, 1, 20⟩) :=
  ⟨rfl, rfl, rfl, rfl⟩

end Tabular
