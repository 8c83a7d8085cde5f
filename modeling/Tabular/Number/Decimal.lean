import Tabular.Text.Digit

/-!
# Decimal numbers

A whole number of units of a power of ten, with a sign that zero keeps too, and the grammar of its
written form: an optional sign, digits with at most one point among, before or behind them, and an
optional exponent behind the letter e. Digits of every script are read.

* `Decimal`: a decimal number.
* `Decimal.read?`: reading a text as one.
-/

namespace Tabular

open Text

/-- The number `digits · 10 ^ exponent`, negated if `negative`. -/
structure Decimal where
  negative : Bool
  digits : Nat
  exponent : Int
deriving DecidableEq, Repr

namespace Decimal

/-- An optional sign, true for minus, and the rest of the text. -/
def readSign : List Char → Bool × List Char
  | '-' :: cs => (true, cs)
  | '+' :: cs => (false, cs)
  | cs => (false, cs)

/-- The digits at the head of a text, and the rest of it. -/
def readDigits (cs : List Char) : List Char × List Char :=
  (cs.takeWhile isDigit, cs.dropWhile isDigit)

/-- The digits behind a point, if one stands at the head of the text. -/
def readFraction : List Char → List Char × List Char
  | '.' :: cs => readDigits cs
  | cs => ([], cs)

/-- A whole text as an exponent: nothing at all, or the letter e and a signed run of digits. -/
def readExponent? : List Char → Option Int
  | [] => some 0
  | c :: cs =>
    if c = 'e' ∨ c = 'E' then
      let (negative, cs) := readSign cs
      let (digits, rest) := readDigits cs
      if digits ≠ [] ∧ rest = [] then
        some (if negative then -(digitsValue digits : Int) else digitsValue digits)
      else none
    else none

/-- A whole text as a decimal number. -/
def read? (cs : List Char) : Option Decimal :=
  let (negative, cs) := readSign cs
  let (whole, cs) := readDigits cs
  let (fraction, cs) := readFraction cs
  if whole = [] ∧ fraction = [] then none
  else (readExponent? cs).map fun e =>
    ⟨negative, digitsValue (whole ++ fraction), e - fraction.length⟩

end Decimal

end Tabular
