import Tabular.Text.Digit

/-!
# Whole numbers in writing

A whole number is written in decimal digits without leading zeros, behind a minus sign if it is
negative (`toChars`, `toText`). Reading (`read?`) accepts exactly the written forms of at most
`maxDigits` digits; where a number of more digits has to be written, that fails with `TooLong`.
-/

namespace Tabular.Integer

open Text

/-- The longest run of digits that is read as a number, and that a number may be written in. -/
def maxDigits : Nat := 4300

/-- The digits of a natural number. -/
def naturalChars (n : Nat) : List Char :=
  Nat.toDigits 10 n

/-- The written form of a whole number. -/
def toChars : Int → List Char
  | .ofNat n => naturalChars n
  | .negSucc n => '-' :: naturalChars (n + 1)

/-- The written form of a whole number, as a string. -/
def toText (n : Int) : String :=
  String.ofList (toChars n)

/-- The number that a sign and a run of digits stand for, whether or not they are its written
form. -/
def evaluate : List Char → Int
  | '-' :: cs => -(digitsValue cs : Int)
  | cs => digitsValue cs

/-- A number short enough to be written where its length is limited. -/
def isWritable (n : Int) : Bool :=
  (naturalChars n.natAbs).length ≤ maxDigits

/-- The error of writing a number that is not short enough. -/
structure TooLong where
deriving DecidableEq

/-- The wording of the error: the limit, and how it could be raised. -/
def TooLong.message (_ : TooLong) : String :=
  "Exceeds the limit (" ++ toText maxDigits ++
    " digits) for integer string conversion; use sys.set_int_max_str_digits() to increase the limit"

/-- A text without its sign. -/
def unsigned : List Char → List Char
  | '-' :: cs => cs
  | cs => cs

/-- The whole number of which the text is the written form. -/
def read? (cs : List Char) : Option Int :=
  if (unsigned cs).length ≤ maxDigits ∧ toChars (evaluate cs) = cs then some (evaluate cs) else none

end Tabular.Integer
