import Tabular.Table.Basic
import Tabular.Table.Frame
import Tabular.Cell.Printer

/-!
# Previews

The first rows of a table as a frame of texts (`FrameLibrary.ofTable`), and a frame as a table in Markdown
(`FrameLibrary.toMarkdown`). Short rows leave blanks. Long texts are clipped, columns beyond a limit are only
counted. All that is done to frames is done by a library of data frames.
-/

namespace Tabular

/-- The first elements of a list, or, for a negative count, all but the last. -/
def takeFirst {α : Type} (count : Int) (xs : List α) : List α :=
  if 0 ≤ count then xs.take count.toNat else xs.take (xs.length - count.natAbs)

/-- The reasons why a table has no preview. -/
inductive PreviewError where
  /-- A whole number is too long to be written. -/
  | tooLong (error : Integer.TooLong)
  /-- A call of the library fails. -/
  | library (error : LibraryError)
  /-- A text is missing from a line. -/
  | noText
deriving DecidableEq

/-- The columns of a table in order, with their cells in writing. -/
def Table.columns (t : Table) : Except Integer.TooLong (List Column) :=
  (List.range t.width).mapM fun (index : Nat) => do
    let texts ← t.mapM fun row => row[index]?.mapM Cell.shown
    return ⟨"col_" ++ Integer.toText index, texts⟩

/-- The rows that a frame is made of: all, or the first ones. -/
def Table.rowsOf (limit : Option Int) (t : Table) : Table :=
  limit.elim t (takeFirst · t)

/-- A line of texts between bars. -/
def renderLine (texts : List String) : String :=
  "| " ++ " | ".intercalate texts ++ " |"

/-- A line for a row of texts, none of which may be missing. -/
def renderRow (texts : List (Option String)) : Except PreviewError String :=
  (texts.mapM id).elim (.error .noText) fun texts => .ok (renderLine texts)

/-- The line under a preview that does not show all columns. -/
def footnote (hidden : Nat) : List String :=
  if hidden = 0 then [] else ["\n*(" ++ Integer.toText hidden ++ " more columns not shown)*"]

namespace FrameLibrary

variable (lib : FrameLibrary)

/-- The frame of a table, or of its first rows. -/
def ofTable (limit : Option Int) (t : Table) : Except PreviewError lib.Frame := do
  let columns ← (t.rowsOf limit).columns.mapError .tooLong
  (lib.ofColumns columns).mapError .library

/-- What a preview shows of a column: a text of more than `width` characters ends in three points instead, bars
are written behind a backslash, and a missing text is left blank. -/
def rendered (width : Int) (name : String) : lib.Expr :=
  let column := lib.col name
  let clipped := lib.concat [lib.slice column 0 (width - 3), lib.literal "..."]
  let short := lib.choose (lib.greater (lib.lenChars column) width) clipped column
  lib.fillNull (lib.replaceAll short "|" "\\|") ""

/-- The lines for the rows of a frame. -/
def rowLines (width : Int) (frame : lib.Frame) : Except PreviewError (List String) := do
  let cells ← (lib.select frame ((lib.columns frame).map fun name => lib.named (lib.rendered width name) name)).mapError
    .library
  (lib.rows cells).mapM renderRow

/-- A frame as a table in Markdown: names, a rule, and a line for each row. -/
def toMarkdown (frame : lib.Frame) (maxColumns width : Int) : Except PreviewError String :=
  if lib.isEmpty frame then .ok "No rows."
  else do
    let shown ← (lib.select frame ((takeFirst maxColumns (lib.columns frame)).map lib.col)).mapError .library
    let head := [renderLine (lib.columns shown), renderLine (List.replicate (lib.width shown) "---")]
    let lines ← lib.rowLines width shown
    return "\n".intercalate (head ++ lines ++ footnote (lib.width frame - lib.width shown))

end FrameLibrary

/-- The count of rows and of columns that a preview shows, unless told otherwise. -/
def previewLength : Nat := 10

/-- The count of characters that a preview shows of a text, unless told otherwise. -/
def previewWidth : Nat := 40

/-- The preview of the first rows of a table. -/
def Table.preview (lib : FrameLibrary) (limit : Int) (t : Table) : Except PreviewError String := do
  let frame ← lib.ofTable (some limit) t
  lib.toMarkdown frame previewLength previewWidth

end Tabular
