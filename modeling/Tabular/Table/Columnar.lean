import Tabular.Table.Frame

/-!
# Frames as lists of columns

A library of data frames whose frames are lists of columns (`FrameLibrary.columnar`). An expression is a name
together with the function that evaluates it in a row.
-/

namespace Tabular

/-- The text of a value, if it is a text. -/
def FrameValue.text? : FrameValue → Option String
  | text s => some s
  | _ => none

/-- The count of a value, if it is a count. -/
def FrameValue.count? : FrameValue → Option Nat
  | count n => some n
  | _ => none

/-- The truth of a value, if it is one. -/
def FrameValue.truth? : FrameValue → Option Bool
  | truth b => some b
  | _ => none

/-- An expression that a name and the texts of a row make a value of. -/
structure ColumnarExpr where
  name : String
  value : (String → Option String) → Option FrameValue

namespace ColumnarExpr

/-- The texts that an expression evaluates to. -/
def texts (e : ColumnarExpr) (cell : String → Option String) : Option String :=
  (e.value cell).bind FrameValue.text?

/-- The expression under the same name that makes a text of each text. -/
def mapText (e : ColumnarExpr) (f : String → FrameValue) : ColumnarExpr :=
  ⟨e.name, fun cell => (e.texts cell).map f⟩

/-- The part of a text from an offset on; a negative offset counts from the end. -/
def sliceText (offset length : Int) (s : String) : String :=
  let start := if 0 ≤ offset then offset.toNat else s.length - offset.natAbs
  String.ofList ((s.toList.drop start).take length.toNat)

/-- A text in which a text of one character is replaced; other texts are left in place. -/
def replaceText (old new s : String) : String :=
  match old.toList with
  | [c] => String.ofList (s.toList.flatMap fun d => if d = c then new.toList else [d])
  | _ => s

/-- The column that an expression gives for columns. -/
def column (columns : List Column) (e : ColumnarExpr) : Column :=
  ⟨e.name, (List.range (Column.height columns)).map fun row => e.texts (Column.cell columns row)⟩

end ColumnarExpr

/-- The error of making a frame of columns of different heights. -/
def LibraryError.heights : LibraryError :=
  ⟨"ShapeError", "columns must have one height"⟩

/-- Frames that are lists of columns. -/
def FrameLibrary.columnar : FrameLibrary where
  Frame := List Column
  Expr := ColumnarExpr
  ofColumns columns :=
    if columns.all fun column => column.texts.length = Column.height columns then .ok columns
    else .error .heights
  isEmpty columns := (Column.rows columns).isEmpty
  columns columns := columns.map Column.name
  width columns := columns.length
  rows := Column.rows
  select columns exprs := .ok (exprs.map (ColumnarExpr.column columns))
  col name := ⟨name, fun cell => (cell name).map .text⟩
  literal s := ⟨"literal", fun _ => some (.text s)⟩
  slice e offset length := e.mapText fun s => .text (ColumnarExpr.sliceText offset length s)
  lenChars e := e.mapText fun s => .count s.length
  greater e limit :=
    ⟨e.name, fun cell => ((e.value cell).bind FrameValue.count?).map fun n => .truth (decide (limit < n))⟩
  concat es :=
    ⟨(es.map ColumnarExpr.name).headD "literal",
      fun cell => (es.mapM fun (e : ColumnarExpr) => e.texts cell).map fun texts => .text (String.join texts)⟩
  choose condition e other :=
    ⟨e.name, fun cell =>
      if (condition.value cell).bind FrameValue.truth? = some true then e.value cell else other.value cell⟩
  replaceAll e old new := e.mapText fun s => .text (ColumnarExpr.replaceText old new s)
  fillNull e new := ⟨e.name, fun cell => some ((e.value cell).getD (.text new))⟩
  named e name := ⟨name, e.value⟩

end Tabular
