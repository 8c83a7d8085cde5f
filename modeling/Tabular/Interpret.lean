import Tabular.Calendar.Format
import Tabular.Replace
import Tabular.Number.Printer

/-!
# Interpreting texts

A cell in scope is first read as a date, then as a truth value, then as a number, each reading taking
up what the one before it has left. Dates and numbers are read from texts only. A number is read only
from its own written form, so nothing is lost by reading it.

* `interpretNumber`: the number that a text is the written form of.
* `Interpretation.read`: the three readings of a cell.
* `Table.interpret`: reading the cells in scope, as far as none of them fails.
-/

namespace Tabular

open Calendar

/-- The number of which a text is the written form: a whole number, or a finite floating point number
with a fractional part. -/
def readNumber? (s : String) : Option Cell :=
  match Integer.read? s.toList with
  | some n => some (.int n)
  | none =>
    match (Decimal.read? s.toList).map Binary64.ofDecimal with
    | some x => if x.isFinite ∧ ¬ x.isInteger ∧ x.toText = s then some (.float x) else none
    | none => none

/-- A text as the number of which it is the written form; else the text as it is. -/
def interpretNumber (s : String) : Cell :=
  (readNumber? s).getD (.text s)

namespace Interpretation

/-- A text as the written form, in universal time, of the date that it gives under the format. -/
def readDate (iso : IsoRule) (r : Interpretation) (c : Cell) : Except DateError Cell :=
  match r.dates, c with
  | some format, .text s => do
    match ← DateTime.ofFormat iso format.toList s.toList with
    | some t => return .text t.toText
    | none => return .text s
  | _, c => .ok c

/-- Whether a cell is the word under a key. -/
def isWord (r : Interpretation) (key : String) (c : Cell) : Bool :=
  (r.truthWords.lookup key).any fun word => c.strictlyEqual word

/-- A word as the truth value that it stands for; the word for false is tried first. -/
def readTruth (r : Interpretation) (c : Cell) : Cell :=
  if r.isWord falseKey c then .bool false
  else if r.isWord trueKey c then .bool true
  else c

/-- A text as a number, if numbers are asked for. -/
def readNumber (r : Interpretation) : Cell → Cell
  | .text s => if r.numbers then interpretNumber s else .text s
  | c => c

/-- What a cell in scope is read as. -/
def read (iso : IsoRule) (r : Interpretation) (c : Cell) : Except DateError Cell :=
  (r.readDate iso c).map fun c => r.readNumber (r.readTruth c)

/-- What the cell at a place is read as. -/
def readAt (iso : IsoRule) (r : Interpretation) (row column : Nat) (c : Cell) : Except DateError Cell :=
  if inScope r.rows r.cols row column then r.read iso c else .ok c

end Interpretation

/-- The table with all cells read, or the error of the first cell, row by row, that has one. -/
def Table.interpret (iso : IsoRule) (r : Interpretation) (t : Table) : Except DateError Table :=
  t.zipIdx.mapM fun (cells, row) => cells.zipIdx.mapM fun (c, column) => r.readAt iso row column c

end Tabular
