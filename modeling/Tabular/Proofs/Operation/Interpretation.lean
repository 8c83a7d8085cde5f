import Tabular.Interpret
import Tabular.Proofs.Outcome
import Tabular.Rule.Parser

/-!
# What interpreting does to cells that are no texts

Dates and numbers are read from texts only. A truth word, though, may be any cell, and any cell in scope that
equals it is read as the truth value. So a cell that is no text stays as it is unless it equals a truth word,
and always does if the truth words are texts.

* `readTruth_eq`: reading a truth word.
* `read_of_not_text`: reading a cell that is no text.
* `interpret_cell_of_not_text`: which of these cells change in a table.
-/

namespace Tabular

/-- The cell of a table at a place, if the table has one there. -/
def Table.cell? (t : Table) (row column : Nat) : Option Cell :=
  t[row]?.bind fun cells => cells[column]?

variable {iso : Calendar.IsoRule} {r : Interpretation} {t u : Table} {row column : Nat} {c : Cell}

/-- The cell at a place is that of its row. -/
lemma Table.cell?_eq_some_iff :
    t.cell? row column = some c ↔ ∃ cells, t[row]? = some cells ∧ cells[column]? = some c :=
  Option.bind_eq_some_iff

/-- Interpreting reads every cell for itself and keeps it at its place. -/
lemma Table.exists_cell?_of_interpret (h : t.interpret iso r = .ok u) (hc : t.cell? row column = some c) :
    ∃ c', u.cell? row column = some c' ∧ r.readAt iso row column c = .ok c' := by
  obtain ⟨cells, hrow, hcolumn⟩ := cell?_eq_some_iff.mp hc
  have hrow : t.zipIdx[row]? = some (cells, row) := by simp [hrow]
  have hcolumn : cells.zipIdx[column]? = some (c, column) := by simp [hcolumn]
  obtain ⟨cells', hrow', hcells⟩ := exists_getElem?_of_forall₂ (mapM_eq_ok_iff.mp h) hrow
  obtain ⟨c', hcolumn', hread⟩ := exists_getElem?_of_forall₂ (mapM_eq_ok_iff.mp hcells) hcolumn
  exact ⟨c', cell?_eq_some_iff.mpr ⟨cells', hrow', hcolumn'⟩, hread⟩

namespace Interpretation

/-- A cell that is one of the two words becomes a truth value, the word for false asked first. -/
lemma readTruth_eq (r : Interpretation) (c : Cell) :
    r.readTruth c =
      if r.isWord falseKey c = true ∨ r.isWord trueKey c = true then .bool (!r.isWord falseKey c) else c := by
  unfold readTruth
  cases r.isWord falseKey c with
  | true => simp
  | false => cases r.isWord trueKey c <;> simp

/-- Only truth words matter to a cell that is no text. -/
lemma read_of_not_text (iso : Calendar.IsoRule) (r : Interpretation) (hc : ∀ s, c ≠ .text s) :
    r.read iso c = .ok (r.readTruth c) := by
  have hdate : r.readDate iso c = .ok c := by
    cases c with
    | text s => exact absurd rfl (hc s)
    | _ => cases e : r.dates <;> simp [readDate, e]
  have hnumber : ∀ c, (∀ s, c ≠ .text s) → r.readNumber c = c := by
    intro c hc
    cases c with
    | text s => exact absurd rfl (hc s)
    | _ => rfl
  have htruth : ∀ s, r.readTruth c ≠ .text s := by
    intro s
    rw [readTruth_eq]
    split
    · exact nofun
    · exact hc s
  rw [read, hdate]
  exact congrArg Except.ok (hnumber _ htruth)

/-- A cell that is no text equals no truth word that is one. -/
lemma isWord_of_not_text {key : String} (hc : ∀ s, c ≠ .text s)
    (hword : ∀ word, r.truthWords.lookup key = some word → ∃ s, word = .text s) : r.isWord key c = false := by
  unfold isWord
  cases e : r.truthWords.lookup key with
  | none => rfl
  | some word =>
    obtain ⟨s, rfl⟩ := hword word e
    cases c with
    | text s => exact absurd rfl (hc s)
    | float x => cases x <;> rfl
    | _ => rfl

end Interpretation

/-- A cell that is no text becomes a truth value if it is in scope and equals a truth word. In all other cases
it stays as it is, and so it does always if the truth words are texts. -/
theorem interpret_cell_of_not_text (h : t.interpret iso r = .ok u) (hc : t.cell? row column = some c)
    (htext : ∀ s, c ≠ .text s) :
    (inScope r.rows r.cols row column = true ∧ (r.isWord falseKey c = true ∨ r.isWord trueKey c = true) →
      u.cell? row column = some (.bool (!r.isWord falseKey c))) ∧
    (¬ (inScope r.rows r.cols row column = true ∧ (r.isWord falseKey c = true ∨ r.isWord trueKey c = true)) →
      u.cell? row column = some c) ∧
    ((∀ key ∈ [falseKey, trueKey], ∀ word, r.truthWords.lookup key = some word → ∃ s, word = .text s) →
      u.cell? row column = some c) := by
  obtain ⟨c', hc', hread⟩ := Table.exists_cell?_of_interpret h hc
  have changed : inScope r.rows r.cols row column = true ∧
      (r.isWord falseKey c = true ∨ r.isWord trueKey c = true) → c' = .bool (!r.isWord falseKey c) := by
    rintro ⟨hscope, hword⟩
    rw [Interpretation.readAt, if_pos hscope, r.read_of_not_text iso htext, Interpretation.readTruth_eq,
      if_pos hword] at hread
    cases hread
    rfl
  have kept : ¬ (inScope r.rows r.cols row column = true ∧
      (r.isWord falseKey c = true ∨ r.isWord trueKey c = true)) → c' = c := by
    intro hnot
    rw [Interpretation.readAt] at hread
    split at hread
    · rename_i hscope
      rw [r.read_of_not_text iso htext, Interpretation.readTruth_eq, if_neg fun hword => hnot ⟨hscope, hword⟩] at hread
      cases hread
      rfl
    · cases hread
      rfl
  refine ⟨fun hyes => changed hyes ▸ hc', fun hnot => kept hnot ▸ hc', fun hwords => ?_⟩
  have hfalse := Interpretation.isWord_of_not_text htext (hwords falseKey (by simp))
  have htrue := Interpretation.isWord_of_not_text htext (hwords trueKey (by simp))
  exact kept (by simp [hfalse, htrue]) ▸ hc'

/-- A number between texts, with texts for truth words. -/
theorem interpret_cell_of_not_text_between :
    Interpretation.parse "%Y-%m-%d" (.record [("numbers", .bool true), ("bools", .record
        [("trueVal", .text "1"), ("falseVal", .text "N")])]) =
      .ok ⟨true, [("trueVal", .text "1"), ("falseVal", .text "N")], none, .any, .any⟩ ∧
    Table.interpret .strict ⟨true, [("trueVal", .text "1"), ("falseVal", .text "N")], none, .any, .any⟩
        [[.text "1", .int 1, .text "7"]] =
      .ok [[.bool true, .int 1, .int 7]] ∧
    Table.cell? [[.bool true, .int 1, .int 7]] 0 1 = some (.int 1) := by
  have h : Table.interpret .strict ⟨true, [("trueVal", .text "1"), ("falseVal", .text "N")], none, .any, .any⟩
      [[.text "1", .int 1, .text "7"]] = .ok [[.bool true, .int 1, .int 7]] := rfl
  have hc : Table.cell? [[.text "1", .int 1, .text "7"]] 0 1 = some (.int 1) := rfl
  refine ⟨rfl, h, (interpret_cell_of_not_text h hc nofun).2.2 ?_⟩
  intro key hkey word hword
  rcases List.mem_cons.mp hkey with rfl | hkey
  · cases hword
    exact ⟨_, rfl⟩
  · rcases List.mem_singleton.mp hkey with rfl
    cases hword
    exact ⟨_, rfl⟩

/-- A number that is a truth word is read as a truth value, though it is no text. -/
theorem interpret_number_as_truth :
    Interpretation.parse "%Y-%m-%d" (.record [("bools", .record [("trueVal", .int 1)])]) =
      .ok ⟨false, [("trueVal", .int 1)], none, .any, .any⟩ ∧
    Table.interpret .strict ⟨false, [("trueVal", .int 1)], none, .any, .any⟩ [[.int 1]] = .ok [[.bool true]] ∧
    Table.cell? [[.int 1]] 0 0 = some (.int 1) ∧ Table.cell? [[.bool true]] 0 0 ≠ some (.int 1) := by
  refine ⟨rfl, rfl, rfl, ?_⟩
  exact nofun

end Tabular
