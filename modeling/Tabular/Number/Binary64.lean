import Tabular.Number.Decimal

/-!
# Binary floating point numbers of 64 bits

The finite numbers are `mantissa · 2 ^ exponent` with at most 53 binary digits, in their one
canonical form: the mantissa is as long as the least exponent allows. Beside them stand the two
infinities and the undefined number. `Place` puts all but the last on one line with the whole
numbers, where they are compared without any rounding.

* `Binary64`: the numbers.
* `Place`: the line that all but the undefined one stand on.
* `Binary64.ofDecimal`: the number nearest to a decimal one.
-/

namespace Tabular

/-- Half of the range of mantissas, where the numbers of full precision begin. -/
def Binary64.leastNormal : Nat := Nat.pow 2 52

/-- Where the mantissas end. -/
def Binary64.mantissaBound : Nat := Nat.pow 2 53

/-- The exponent of the numbers nearest to zero. -/
def Binary64.leastExponent : Int := -1074

/-- The exponent of the largest numbers. -/
def Binary64.greatestExponent : Int := 971

/-- The canonical form: a short mantissa only with the least exponent. -/
def Binary64.Canonical (mantissa : Nat) (exponent : Int) : Prop :=
  mantissa < mantissaBound ∧ leastExponent ≤ exponent ∧ exponent ≤ greatestExponent ∧
    (leastNormal ≤ mantissa ∨ exponent = leastExponent)

/-- Whether a mantissa and an exponent are in canonical form can be computed. -/
instance (m : Nat) (e : Int) : Decidable (Binary64.Canonical m e) := by
  unfold Binary64.Canonical; infer_instance

/-- A binary floating point number. -/
inductive Binary64 where
  | nan
  | infinity (negative : Bool)
  | finite (negative : Bool) (mantissa : Nat) (exponent : Int)
      (canonical : Binary64.Canonical mantissa exponent)
deriving DecidableEq

/-- A place on the line of numbers; the finite ones are `coefficient · 2 ^ exponent`. -/
inductive Place where
  | negativeInfinity
  | finite (coefficient exponent : Int)
  | positiveInfinity
deriving DecidableEq

namespace Place

/-- The coefficient of the place `coefficient · 2 ^ exponent` under an exponent that is not
greater. -/
def rescale (coefficient exponent least : Int) : Int :=
  coefficient * Nat.pow 2 (exponent - least).toNat

/-- Equal places; finite ones are brought to one exponent first. -/
def same : Place → Place → Bool
  | .finite c e, .finite d f => rescale c e (min e f) == rescale d f (min e f)
  | .negativeInfinity, .negativeInfinity => true
  | .positiveInfinity, .positiveInfinity => true
  | _, _ => false

/-- Comes strictly before. -/
def before : Place → Place → Bool
  | .finite c e, .finite d f => rescale c e (min e f) < rescale d f (min e f)
  | .positiveInfinity, _ => false
  | _, .negativeInfinity => false
  | _, _ => true

/-- The place of a whole number. -/
def ofInt (n : Int) : Place :=
  .finite n 0

end Place

namespace Binary64

/-- Zero, with either sign. -/
def zero (negative : Bool) : Binary64 :=
  .finite negative 0 leastExponent (by decide)

/-- The place of a number; the undefined number has none. -/
def place? : Binary64 → Option Place
  | .nan => none
  | .infinity negative => some (if negative then .negativeInfinity else .positiveInfinity)
  | .finite negative mantissa exponent _ =>
    some (.finite (if negative then -(mantissa : Int) else mantissa) exponent)

/-- Neither infinite nor undefined. -/
def isFinite : Binary64 → Bool
  | .finite .. => true
  | _ => false

/-- A finite number without a fractional part. -/
def isInteger : Binary64 → Bool
  | .finite _ mantissa exponent _ => mantissa % Nat.pow 2 (-exponent).toNat == 0
  | _ => false

/-- Zero of either sign. -/
def isZero : Binary64 → Bool
  | .finite _ mantissa _ _ => mantissa == 0
  | _ => false

/-- The quotient rounded to the nearest natural number, an exact half to the even one. -/
def roundHalfEven (numerator denominator : Nat) : Nat :=
  let q := numerator / denominator
  let r := numerator % denominator
  if 2 * r < denominator then q
  else if denominator < 2 * r then q + 1
  else q + q % 2

/-- The number with the given mantissa and exponent; what is too large becomes infinite. -/
def pack (negative : Bool) (mantissa : Nat) (exponent : Int) : Binary64 :=
  if h : Canonical mantissa exponent then .finite negative mantissa exponent h
  else .infinity negative

/-- The numerator and denominator of a quotient counted in units of `2 ^ exponent`. -/
def inUnits (numerator denominator : Nat) (exponent : Int) : Nat × Nat :=
  (numerator * Nat.pow 2 (-exponent).toNat, denominator * Nat.pow 2 exponent.toNat)

/-- The exponent at which a positive quotient has 53 binary digits before the point, or the least
exponent if that is greater. -/
def quotientExponent (numerator denominator : Nat) : Int :=
  let e := max leastExponent ((numerator.log2 : Int) - denominator.log2 - 53)
  let (n, d) := inUnits numerator denominator e
  if mantissaBound ≤ n / d then e + 1 else e

/-- The floating point number nearest to a quotient of natural numbers, a tie going to the even
mantissa. -/
def ofRatio (negative : Bool) (numerator denominator : Nat) : Binary64 :=
  if numerator = 0 then zero negative
  else
    let e := quotientExponent numerator denominator
    let (n, d) := inUnits numerator denominator e
    let m := roundHalfEven n d
    if m = mantissaBound then pack negative leastNormal (e + 1) else pack negative m e

/-- Decimal exponents beyond which every number is infinite, and below whose negative every short
number is zero. -/
def exponentGuard : Int := 400

/-- The floating point number nearest to a decimal number. Exponents far outside the range are
decided without computing their powers. -/
def ofDecimal (x : Decimal) : Binary64 :=
  if x.digits = 0 then zero x.negative
  else if exponentGuard < x.exponent then .infinity x.negative
  else if x.exponent + x.digits.log2 < -exponentGuard then zero x.negative
  else ofRatio x.negative (x.digits * Nat.pow 10 x.exponent.toNat) (Nat.pow 10 (-x.exponent).toNat)

end Binary64

end Tabular
