/-!
# Table names

The name that a table is kept under is made from any label: letters and digits of the plain alphabet
in lower case, with single underscores for all between them, and not beginning with a digit.

* `TableName.nameChar`: the character that stands for another one in names.
* `TableName.words`: the words of a label.
* `TableName.ofLabel`: the name made from a label.
-/

namespace Tabular.TableName

/-- The character that separates the words of a name. -/
def separator : Char := '_'

/-- A character of a label in a name: letters and digits of the plain alphabet stay, in lower case. -/
def nameChar (c : Char) : Char :=
  if c.isAlphanum then c.toLower else separator

/-- A text with each run of separators shortened to one. -/
def collapse : List Char → List Char
  | [] => []
  | c :: cs =>
    if c = separator ∧ cs.head? = some separator then collapse cs else c :: collapse cs

/-- A text without the separators at either end. -/
def strip (cs : List Char) : List Char :=
  ((cs.dropWhile (· == separator)).reverse.dropWhile (· == separator)).reverse

/-- The words of a label with single separators between them. -/
def words (label : List Char) : List Char :=
  strip (collapse (label.map nameChar))

/-- The name made from a label. -/
def ofLabel (label : String) : String :=
  let cs := words label.toList
  if cs.head?.all Char.isDigit then String.ofList ('t' :: separator :: cs) else String.ofList cs

end Tabular.TableName
