import Tabular.Number.Binary64

/-!
# Cells

The values that tables hold and rules are written in: nothing, truth values, whole and floating
point numbers, text, and lists and records of cells.

* `Cell`: a value of any kind.
* `Cell.truthy`: whether a cell counts as true.
* `Cell.isPlain`: no lists and no records.
-/

namespace Tabular

/-- A value in a table. -/
inductive Cell where
  | null
  | bool (b : Bool)
  | int (n : Int)
  | float (x : Binary64)
  | text (s : String)
  | list (cells : List Cell)
  | record (fields : List (String × Cell))

namespace Cell

/-- Nothing is the cell to start from. -/
instance : Inhabited Cell := ⟨.null⟩

/-- The name of the kind of a cell in messages. -/
def kindName : Cell → String
  | null => "NoneType"
  | bool _ => "bool"
  | int _ => "int"
  | float _ => "float"
  | text _ => "str"
  | list _ => "list"
  | record _ => "dict"

/-- Everything counts as true but nothing at all, false, zero and what is empty. -/
def truthy : Cell → Bool
  | null => false
  | bool b => b
  | int n => n != 0
  | float x => !x.isZero
  | text s => s != ""
  | list cells => !cells.isEmpty
  | record fields => !fields.isEmpty

/-- Neither a list nor a record. -/
def isPlain : Cell → Bool
  | list _ => false
  | record _ => false
  | _ => true

/-- The fields of a record. -/
def fields? : Cell → Option (List (String × Cell))
  | record fields => some fields
  | _ => none

end Cell

end Tabular
