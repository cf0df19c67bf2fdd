import Decipher.Binary64.Basic

/-!
# The shortest decimal that reads back

`shortest` gives the decimal with the fewest digits that rounds to a given
binary64 number; among those of that length the one nearest to the number, an
exact tie going to the even last digit.

The search walks the decimal grids from coarse to fine.  A grid that has a point
in the interval of reals that round to the number has one among the two
neighbours of the number on that grid, so only those two are tested.
-/

namespace Decipher

/-- The decimal `digits · 10 ^ exponent`. -/
structure Decimal where
  digits : Nat
  exponent : Int
  deriving DecidableEq

namespace Decimal

/-- The digits of a natural, most significant first. -/
def digitChars (n : Nat) : List Char := (Nat.repr n).toList

/-- Moves trailing zeros of the digits into the exponent.  The fuel bounds their
number. -/
def trimZeros : Nat → Decimal → Decimal
  | 0, x => x
  | fuel + 1, x =>
    if x.digits ≠ 0 ∧ x.digits % 10 = 0 then trimZeros fuel ⟨x.digits / 10, x.exponent + 1⟩
    else x

/-- The exponent of the first digit. -/
def leadExponent (x : Decimal) : Int :=
  x.exponent + (digitChars x.digits).length - 1

end Decimal

namespace Binary64

/-- The reals that round to a number, and the number itself, in quarters of its
unit in the last place. -/
structure RoundingInterval where
  low : Nat
  mid : Nat
  high : Nat
  /-- The two ends round to the number as well. -/
  closed : Bool

/-- Below a power of two the numbers lie twice as dense as above it, so there
the lower end is half as far away. -/
def roundingInterval (m : Nat) (e : Int) : RoundingInterval :=
  { low := 4 * m - (if m = Nat.pow 2 52 ∧ minExponent < e then 1 else 2)
    mid := 4 * m
    high := 4 * m + 2
    closed := m % 2 = 0 }

/-- Factors `(u, g)` such that `k` quarters of the unit `2 ^ e` lie at `c` on the
grid of spacing `10 ^ p` just when `k * u = c * g`. -/
def gridFactors (e p : Int) : Nat × Nat :=
  let q := e - 2
  (Nat.pow 2 q.toNat * Nat.pow 10 (-p).toNat, Nat.pow 2 (-q).toNat * Nat.pow 10 p.toNat)

/-- The point of the grid of spacing `10 ^ p` nearest to `m · 2 ^ e` among those
that read back as it. -/
def gridPoint? (m : Nat) (e p : Int) : Option Nat :=
  let interval := roundingInterval m e
  let (u, g) := gridFactors e p
  let inside (c : Nat) : Bool :=
    if interval.closed then interval.low * u ≤ c * g && c * g ≤ interval.high * u
    else interval.low * u < c * g && c * g < interval.high * u
  let below := interval.mid * u / g
  let rest := interval.mid * u % g
  match inside below, inside (below + 1) with
  | false, false => none
  | true, false => some below
  | false, true => some (below + 1)
  | true, true =>
    if 2 * rest < g then some below
    else if g < 2 * rest then some (below + 1)
    else some (below + below % 2)

/-- Whether `10 ^ p ≤ m · 2 ^ e`. -/
def reachesPow10 (m : Nat) (e p : Int) : Bool :=
  Nat.pow 10 p.toNat * Nat.pow 2 (-e).toNat ≤ m * Nat.pow 2 e.toNat * Nat.pow 10 (-p).toNat

/-- The exponent of the first digit of `m · 2 ^ e`, for `m` not zero. -/
def leadExponent (m : Nat) (e : Int) : Int :=
  let guess : Int := (((m.log2 : Int) + e) * 30103) / 100000
  if reachesPow10 m e (guess + 1) then guess + 1
  else if reachesPow10 m e guess then guess
  else guess - 1

/-- The shortest decimal that reads back as the magnitude of `x`. -/
def shortest (x : Binary64) : Decimal :=
  if x.mantissa = 0 then ⟨0, 0⟩
  else
    let lead := leadExponent x.mantissa x.exponent
    let found := (List.range 17).findSome? fun (k : Nat) =>
      let p := lead - k
      (gridPoint? x.mantissa x.exponent p).map fun digits => Decimal.trimZeros 20 ⟨digits, p⟩
    found.getD ⟨0, 0⟩

end Binary64

end Decipher
