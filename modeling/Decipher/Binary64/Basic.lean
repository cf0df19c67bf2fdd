/-!
# Binary64 numbers

A finite binary64 number is kept as its sign, its mantissa and its exponent, so
that every operation on it is exact integer arithmetic followed by one rounding.
`ofRatio` is that rounding: it takes a quotient of naturals to the nearest
binary64 number, ties to the even mantissa, and answers `none` where the nearest
number would not be finite.

Multiplication, division and the powers of ten are all `ofRatio` of an exact
quotient.  Nothing here uses the machine's own arithmetic.
-/

namespace Decipher

/-- The number `± mantissa · 2 ^ exponent`. -/
structure Binary64 where
  negative : Bool
  mantissa : Nat
  exponent : Int
  deriving DecidableEq

namespace Binary64

/-- The exponent of the least positive number. -/
def minExponent : Int := -1074

/-- The exponent of the greatest finite number. -/
def maxExponent : Int := 971

/-- The one spelling that every number has: the mantissa fits 53 bits, and uses
all of them unless the exponent is the least one. -/
def Canonical (x : Binary64) : Prop :=
  x.mantissa < Nat.pow 2 53 ∧ minExponent ≤ x.exponent ∧ x.exponent ≤ maxExponent ∧
    (Nat.pow 2 52 ≤ x.mantissa ∨ x.exponent = minExponent)

instance (x : Binary64) : Decidable x.Canonical := by
  unfold Canonical
  infer_instance

/-- Zero, with a sign. -/
def zero (negative : Bool) : Binary64 := ⟨negative, 0, minExponent⟩

def isZero (x : Binary64) : Bool := x.mantissa == 0

/-- Numerical equality: the two zeros are one number. -/
def sameValue (x y : Binary64) : Bool :=
  (x.isZero && y.isZero) || x == y

/-- `n / d` to the nearest natural, a half going to the even neighbour. -/
def roundQuotient (n d : Nat) : Nat :=
  let quotient := n / d
  let twice := 2 * (n % d)
  if twice < d then quotient
  else if d < twice then quotient + 1
  else quotient + quotient % 2

/-- Numerator and denominator of `n / d / 2 ^ e`. -/
def scaleRatio (n d : Nat) (e : Int) : Nat × Nat :=
  if e < 0 then (n * Nat.pow 2 e.natAbs, d) else (n, d * Nat.pow 2 e.natAbs)

/-- The exponent at which `n / d` has a mantissa of 53 bits, or the least
exponent if that is greater. -/
def ratioExponent (n d : Nat) : Int :=
  let guess : Int := (n.log2 : Int) - (d.log2 : Int) - 52
  let (num, den) := scaleRatio n d guess
  max minExponent (if num < Nat.pow 2 52 * den then guess - 1 else guess)

/-- The binary64 number nearest to `± n / d`, if it is finite. -/
def ofRatio (negative : Bool) (n d : Nat) : Option Binary64 :=
  let e := ratioExponent n d
  let (num, den) := scaleRatio n d e
  let m := roundQuotient num den
  if n = 0 then some (zero negative)
  else if m = Nat.pow 2 53 then
    if e + 1 ≤ maxExponent then some ⟨negative, Nat.pow 2 52, e + 1⟩ else none
  else if e ≤ maxExponent then some ⟨negative, m, e⟩ else none

/-- The magnitude of a number as a quotient of naturals. -/
def toRatio (x : Binary64) : Nat × Nat :=
  scaleRatio x.mantissa 1 (-x.exponent)

/-- The nearest binary64 number to a natural below `2 ^ 1023`. -/
def ofNat (negative : Bool) (n : Nat) : Binary64 :=
  (ofRatio negative n 1).getD (zero negative)

/-- The product, if it is finite. -/
def mul (x y : Binary64) : Option Binary64 :=
  let (xn, xd) := x.toRatio
  let (yn, yd) := y.toRatio
  ofRatio (x.negative != y.negative) (xn * yn) (xd * yd)

/-- The quotient, if it is finite and the divisor is not zero. -/
def div (x y : Binary64) : Option Binary64 :=
  let (xn, xd) := x.toRatio
  let (yn, yd) := y.toRatio
  if yn = 0 then none
  else ofRatio (x.negative != y.negative) (xn * yd) (xd * yn)

/-- The nearest binary64 number to `10 ^ k`, for `k ≤ 308`. -/
def pow10 (k : Nat) : Binary64 := ofNat false (Nat.pow 10 k)

/-- The greatest power of ten that is finite. -/
def maxPow10 : Nat := 308

end Binary64

end Decipher
