/-!
# Data frames

Previews are drawn by a library of data frames, which is no part of this development. `FrameLibrary` is what
they use of it, call by call, and `FrameLibrary.Documented` is what is known of these calls: what frames consist
of, and what an expression evaluates to in a row (`FrameLibrary.Evaluates`). Where a call is not known to
succeed, it may fail.
-/

namespace Tabular

/-- What a call of a library raises: the class of the error, and its wording. -/
structure LibraryError where
  kind : String
  message : String
deriving DecidableEq

/-- A named column of texts, some of which may be missing. -/
@[ext]
structure Column where
  name : String
  texts : List (Option String)

namespace Column

/-- The count of rows of columns; without columns there is none. -/
def height : List Column → Nat
  | [] => 0
  | column :: _ => column.texts.length

/-- The text of a column in a row, if it is not missing. -/
def text? (column : Column) (row : Nat) : Option String :=
  column.texts[row]?.join

/-- The text in a row of the column of a name. -/
def cell (columns : List Column) (row : Nat) (name : String) : Option String :=
  (columns.find? fun column => column.name == name).bind fun column => column.text? row

/-- The rows of columns. -/
def rows (columns : List Column) : List (List (Option String)) :=
  (List.range (height columns)).map fun row => columns.map fun column => column.text? row

end Column

/-- What an expression may evaluate to in a row, unless the value is missing. -/
inductive FrameValue where
  | text (s : String)
  | count (n : Nat)
  | truth (b : Bool)

/-- A library of data frames, as far as previews use it. Expressions are put together by calls; they are
evaluated, row by row, where they are selected from a frame. -/
structure FrameLibrary where
  /-- The frames. -/
  Frame : Type
  /-- The expressions. -/
  Expr : Type
  /-- The frame of columns of texts. -/
  ofColumns : List Column → Except LibraryError Frame
  /-- Whether a frame has no rows. -/
  isEmpty : Frame → Bool
  /-- The names of the columns of a frame, in order. -/
  columns : Frame → List String
  /-- The count of the columns of a frame. -/
  width : Frame → Nat
  /-- The rows of a frame, in order. -/
  rows : Frame → List (List (Option String))
  /-- The frame of the columns that expressions give. -/
  select : Frame → List Expr → Except LibraryError Frame
  /-- The column of a name. -/
  col : String → Expr
  /-- A text, the same in all rows. -/
  literal : String → Expr
  /-- The part of texts from an offset on, of a length, in characters. -/
  slice : Expr → Int → Int → Expr
  /-- The count of the characters of texts. -/
  lenChars : Expr → Expr
  /-- Whether counts are greater than a number. -/
  greater : Expr → Int → Expr
  /-- Texts joined in each row. -/
  concat : List Expr → Expr
  /-- The second expression where the first is true, and the third elsewhere. -/
  choose : Expr → Expr → Expr → Expr
  /-- Texts in which a text is replaced by another one wherever it occurs. -/
  replaceAll : Expr → String → String → Expr
  /-- Values with a text in place of the missing ones. -/
  fillNull : Expr → String → Expr
  /-- An expression under a name. -/
  named : Expr → String → Expr

namespace FrameLibrary

variable (lib : FrameLibrary)

variable {lib}

end FrameLibrary

end Tabular
