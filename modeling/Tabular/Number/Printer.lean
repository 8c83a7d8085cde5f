import Tabular.Number.Shortest
import Tabular.Number.Integer

/-!
# Floating point numbers in writing

A floating point number is written with the digits of its shortest decimal. A number whose leading
digit stands near the point is written out, always with a digit on either side of the point; any
other has one digit before the point and an exponent.

* `FloatStyle`: where the point is written out.
* `Decimal.toChars`: a decimal in a style.
* `Binary64.toChars`: a floating point number by its shortest decimal.
* `Binary64.read?`: reading one back.
-/

namespace Tabular

/-- The choices of a written form: from and below which place of the leading digit a number is
written out, and the least count of digits of an exponent. -/
structure FloatStyle where
  positionalFrom : Int
  positionalBelow : Int
  exponentDigits : Nat

/-- Numbers from a ten-thousandth up to ten million thousand millions are written out, and exponents
have two digits or more. -/
def FloatStyle.standard : FloatStyle := ⟨-4, 16, 2⟩

namespace Decimal

/-- The significant digits without trailing zeros; zero keeps one digit. -/
def significantDigits (x : Decimal) : List Char :=
  match ((Integer.naturalChars x.digits).reverse.dropWhile (· == '0')).reverse with
  | [] => ['0']
  | ds => ds

/-- The place of the leading digit: 0 for units, 1 for tens, -1 for tenths. -/
def leadingExponent (x : Decimal) : Int :=
  if x.digits = 0 then 0 else x.exponent + (Integer.naturalChars x.digits).length - 1

/-- Digits with a point behind the first `point` of them, filled up with zeros. -/
def positional (digits : List Char) (point : Int) : List Char :=
  if point ≤ 0 then '0' :: '.' :: (List.replicate (-point).toNat '0' ++ digits)
  else if digits.length ≤ point.toNat then
    digits ++ List.replicate (point.toNat - digits.length) '0' ++ ['.', '0']
  else digits.take point.toNat ++ '.' :: digits.drop point.toNat

/-- Digits with the point behind the first, where more than one is there, and an exponent. -/
def scientific (style : FloatStyle) (digits : List Char) (exponent : Int) : List Char :=
  let power := Integer.naturalChars exponent.natAbs
  digits.take 1 ++ (if digits.length ≤ 1 then [] else '.' :: digits.drop 1) ++
    'e' :: (if exponent < 0 then '-' else '+') ::
      (List.replicate (style.exponentDigits - power.length) '0' ++ power)

/-- The written form of a decimal number. -/
def toChars (style : FloatStyle) (x : Decimal) : List Char :=
  let top := x.leadingExponent
  (if x.negative then ['-'] else []) ++
    if style.positionalFrom ≤ top ∧ top < style.positionalBelow then
      positional x.significantDigits (top + 1)
    else scientific style x.significantDigits top

end Decimal

namespace Binary64

/-- The written form of a floating point number. -/
def toChars : Binary64 → List Char
  | .nan => "nan".toList
  | .infinity true => "-inf".toList
  | .infinity false => "inf".toList
  | .finite negative mantissa exponent h =>
    (shortestDecimal negative mantissa exponent h).toChars .standard

/-- The written form of a floating point number, as a string. -/
def toText (x : Binary64) : String :=
  String.ofList x.toChars

/-- A text as a floating point number: one of the three names, or a decimal number. -/
def read? (cs : List Char) : Option Binary64 :=
  if cs = "nan".toList then some .nan
  else if cs = "inf".toList then some (.infinity false)
  else if cs = "-inf".toList then some (.infinity true)
  else (Decimal.read? cs).map ofDecimal

end Binary64

end Tabular
