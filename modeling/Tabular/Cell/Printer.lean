import Tabular.Cell.Basic
import Tabular.Number.Printer
import Tabular.Text.Quoted

/-!
# Cells in writing

A literal (`literal`) tells the kinds of cells apart: text is quoted. Shown on its own, text is written as
it is (`display`). A whole number of too many digits cannot be written at all (`isWritable`), so showing a
cell that holds one fails (`shown`).
-/

namespace Tabular.Cell

mutual

/-- The literal form of a cell. -/
def literal : Cell → List Char
  | null => "None".toList
  | bool true => "True".toList
  | bool false => "False".toList
  | int n => Integer.toChars n
  | float x => x.toChars
  | text s => Text.quoteChars s.toList
  | list cells => '[' :: literals cells ++ [']']
  | record fields => '\x7b' :: fieldLiterals fields ++ ['\x7d']

/-- Literals with commas between them. -/
def literals : List Cell → List Char
  | [] => []
  | [c] => literal c
  | c :: cs => literal c ++ ',' :: ' ' :: literals cs

/-- Names and literals of fields with commas between them. -/
def fieldLiterals : List (String × Cell) → List Char
  | [] => []
  | [(k, c)] => Text.quoteChars k.toList ++ ':' :: ' ' :: literal c
  | (k, c) :: fs =>
    Text.quoteChars k.toList ++ ':' :: ' ' :: literal c ++ ',' :: ' ' :: fieldLiterals fs

end

mutual

/-- No whole number in a cell is too long to be written. -/
def isWritable : Cell → Bool
  | int n => Integer.isWritable n
  | list cells => allWritable cells
  | record fields => fieldsWritable fields
  | _ => true

/-- No whole number in any of the cells is too long to be written. -/
def allWritable : List Cell → Bool
  | [] => true
  | c :: cs => isWritable c && allWritable cs

/-- No whole number in any of the fields is too long to be written. -/
def fieldsWritable : List (String × Cell) → Bool
  | [] => true
  | (_, c) :: fs => isWritable c && fieldsWritable fs

end

/-- A cell on its own: text as it is, all else in its literal form. -/
def display : Cell → String
  | text s => s
  | c => String.ofList c.literal

/-- A cell on its own, if no whole number in it is too long to be written. -/
def shown (c : Cell) : Except Integer.TooLong String :=
  if c.isWritable then .ok c.display else .error ⟨⟩

end Tabular.Cell
