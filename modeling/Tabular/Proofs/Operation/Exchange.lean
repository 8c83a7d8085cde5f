import Tabular.Proofs.Operation.Aborting
import Tabular.Proofs.Operation.Places
import Tabular.Proofs.Table.Stepped

/-!
# Changing cells and exchanging rows and columns

What is done to single cells can be done before or after rows and columns are exchanged, if the selectors of
rows and columns are exchanged as well. For an interpretation this holds of its failures, too.

* `Replacement.exchange`, `Interpretation.exchange`: rows and columns swapped in the scope.
* `transpose_replace_and_interpret`: changing cells before and after the exchange.
-/

namespace Tabular

variable {iso : Calendar.IsoRule} {t u : Table} {f : Nat → Nat → Cell → Cell} {row column : Nat}

/-- The replacement for the exchanged table. -/
def Replacement.exchange (r : Replacement) : Replacement :=
  { r with rows := r.cols, cols := r.rows }

/-- The interpretation for the exchanged table. -/
def Interpretation.exchange (r : Interpretation) : Interpretation :=
  { r with rows := r.cols, cols := r.rows }

/-- A place is in scope if the exchanged place is in the exchanged scope. -/
lemma inScope_comm (rows cols : Selector) (row column : Nat) :
    inScope cols rows column row = inScope rows cols row column :=
  Bool.and_comm _ _

namespace Replacement

/-- An exchanged replacement does at the exchanged place what the replacement does. -/
lemma apply_exchange (row column : Nat) (c : Cell) (r : Replacement) :
    apply column row c r.exchange = apply row column c r := by
  rw [apply, apply, exchange, inScope_comm]

end Replacement

namespace Interpretation

/-- An exchanged interpretation reads at the exchanged place what the interpretation reads. -/
lemma readAt_exchange (iso : Calendar.IsoRule) (r : Interpretation) (row column : Nat) (c : Cell) :
    r.exchange.readAt iso column row c = r.readAt iso row column c := by
  rw [readAt, readAt, exchange, inScope_comm]
  rfl

end Interpretation

namespace Table

/-- Other cells in the same rows leave the lengths of the rows descending. -/
lemma Descending.mapPlaces (h : t.Descending) (f : Nat → Nat → Cell → Cell) : (t.mapPlaces f).Descending := by
  rw [Descending, ← List.pairwise_map (f := List.length) (R := fun m n => n ≤ m)] at h ⊢
  rwa [map_length_mapPlaces]

/-- Other cells in the same rows leave a table stepped. -/
lemma Stepped.mapPlaces (h : t.Stepped) (f : Nat → Nat → Cell → Cell) : (t.mapPlaces f).Stepped := by
  refine ⟨h.descending.mapPlaces f, ?_⟩
  have hlengths : ∀ n ∈ (t.mapPlaces f).map List.length, n ≠ 0 := by
    rw [map_length_mapPlaces]
    exact List.forall_mem_map.mpr fun row hrow => mt List.length_eq_zero_iff.mp (h.ne_nil row hrow)
  exact fun row hrow => mt List.length_eq_zero_iff.mpr (List.forall_mem_map.mp hlengths row hrow)

/-- Changing cells place by place and exchanging can be done in either order, the places exchanged. -/
lemma Descending.transpose_mapPlaces (h : t.Descending) (f : Nat → Nat → Cell → Cell) :
    (t.mapPlaces f).transpose = t.transpose.mapPlaces fun row column => f column row := by
  apply eq_of_cell? (stepped_transpose _).ne_nil (t.stepped_transpose.mapPlaces _).ne_nil
  intro column row
  rw [(h.mapPlaces f).cell?_transpose, cell?_mapPlaces, cell?_mapPlaces, h.cell?_transpose]

/-- Replacing and exchanging can be done in either order, the selectors swapped. -/
lemma Descending.transpose_replace (h : t.Descending) (rules : List Replacement) :
    (t.replace rules).transpose = t.transpose.replace (rules.map Replacement.exchange) := by
  rw [replace, h.transpose_mapPlaces, replace]
  congr 1
  funext column row c
  rw [List.foldl_map]
  congr 1
  funext c r
  exact (Replacement.apply_exchange row column c r).symm

/-- Interpreting fails alike on both sides of the exchange. -/
lemma Descending.interpret_exchange_eq_error_iff (h : t.Descending) {r : Interpretation}
    {e : Calendar.DateError} : t.transpose.interpret iso r.exchange = .error e ↔ t.interpret iso r = .error e := by
  rw [interpret_eq_error_iff, interpret_eq_error_iff, exists_comm]
  simp only [h.cell?_transpose, Interpretation.exchange, inScope_comm]

/-- Interpreting and exchanging can be done in either order, the selectors swapped. -/
lemma Descending.transpose_interpret (h : t.Descending) (r : Interpretation) :
    t.transpose.interpret iso r.exchange = transpose <$> t.interpret iso r := by
  cases hu : t.interpret iso r with
  | error e => exact h.interpret_exchange_eq_error_iff.mpr hu
  | ok u =>
    cases hv : t.transpose.interpret iso r.exchange with
    | error e => exact nomatch hu.symm.trans (h.interpret_exchange_eq_error_iff.mp hv)
    | ok v =>
      rw [eq_mapPlaces_of_interpret hu, eq_mapPlaces_of_interpret hv]
      show Except.ok _ = Except.ok (transpose _)
      rw [h.transpose_mapPlaces]
      congr 2
      funext column row c
      rw [Interpretation.readAtD, Interpretation.readAt_exchange]
      rfl

end Table

/-- Replacing and interpreting go with the exchange of rows and columns, if their selectors are exchanged. An
interpretation fails for the exchanged table exactly if it does for the table, and for the same cause. -/
theorem transpose_replace_and_interpret (iso : Calendar.IsoRule) {t : Table} (ht : t.Rectangular)
    (rules : List Replacement) (r : Interpretation) :
    (t.replace rules).transpose = t.transpose.replace (rules.map Replacement.exchange) ∧
    t.transpose.interpret iso r.exchange = (t.interpret iso r).map Table.transpose :=
  ⟨ht.descending.transpose_replace rules, ht.descending.transpose_interpret r⟩

/-- What is done to a row of a square table is done to a column of the exchanged one. -/
theorem transpose_replace_and_interpret_first_row :
    Table.Rectangular [[.text "1", .text "2"], [.text "1", .text "2"]] ∧
      Table.replace [⟨.text "1", .null, .any, .only [.int 0]⟩] [[.text "1", .text "1"], [.text "2", .text "2"]] =
        [[.null, .text "1"], [.text "2", .text "2"]] ∧
      Table.interpret .strict ⟨true, [], none, .any, .only [.int 0]⟩ [[.text "1", .text "1"], [.text "2", .text "2"]] =
        .ok [[.int 1, .text "1"], [.int 2, .text "2"]] := by
  have ht : Table.Rectangular [[.text "1", .text "2"], [.text "1", .text "2"]] := by
    unfold Table.Rectangular
    decide
  obtain ⟨hreplace, hinterpret⟩ := transpose_replace_and_interpret .strict ht
    [⟨.text "1", .null, .only [.int 0], .any⟩] ⟨true, [], none, .only [.int 0], .any⟩
  exact ⟨ht, hreplace.symm, hinterpret⟩

end Tabular
