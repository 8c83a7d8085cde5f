import Tabular.Number.Binary64

/-!
# The shortest decimal

Of all decimal numbers that read back as a given floating point number, the one with the fewest
digits, and of several the nearest. For each count of digits the two neighbours of the number on the
grid of that count are tried, the nearer first, a tie going to the even one.

* `Binary64.candidates`: the decimals that are tried.
* `Binary64.shortestDecimal`: the first of them that reads back.
-/

namespace Tabular.Binary64

/-- The count of decimal digits of a natural number. -/
def digitCount (n : Nat) : Nat :=
  (Nat.toDigits 10 n).length

/-- The exponent `k` of the leading digit of a positive quotient: `10 ^ k ≤ quotient < 10 ^ (k+1)`. -/
def leadingPlace (numerator denominator : Nat) : Int :=
  if denominator ≤ numerator then (digitCount (numerator / denominator) : Int) - 1
  else -(digitCount ((denominator - 1) / numerator) : Int)

/-- The two natural numbers around a quotient, the nearer first. -/
def neighbours (numerator denominator : Nat) : List Nat :=
  let q := numerator / denominator
  if roundHalfEven numerator denominator = q then [q, q + 1] else [q + 1, q]

/-- The neighbours of a positive quotient among the decimals of a count of digits, the nearer
first. -/
def candidates (negative : Bool) (numerator denominator count : Nat) : List Decimal :=
  let e := leadingPlace numerator denominator - count + 1
  (neighbours (numerator * Nat.pow 10 (-e).toNat) (denominator * Nat.pow 10 e.toNat)).map (⟨negative, ·, e⟩)

/-- A count of digits that always suffices to tell two floating point numbers apart. -/
def sufficientDigits : Nat := 17

/-- A finite number in decimal, all digits written out. -/
def exactDecimal (negative : Bool) (mantissa : Nat) (exponent : Int) : Decimal :=
  if 0 ≤ exponent then ⟨negative, mantissa * Nat.pow 2 exponent.toNat, 0⟩
  else ⟨negative, mantissa * Nat.pow 5 (-exponent).toNat, exponent⟩

/-- The shortest decimal of a finite number. -/
def shortestDecimal (negative : Bool) (mantissa : Nat) (exponent : Int)
    (h : Canonical mantissa exponent) : Decimal :=
  if mantissa = 0 then ⟨negative, 0, 0⟩
  else
    let hits := (List.range sufficientDigits).findSome? fun n =>
      (candidates negative (mantissa * Nat.pow 2 exponent.toNat) (Nat.pow 2 (-exponent).toNat) (n + 1)).find?
        fun x => ofDecimal x == .finite negative mantissa exponent h
    hits.getD (exactDecimal negative mantissa exponent)

end Tabular.Binary64
