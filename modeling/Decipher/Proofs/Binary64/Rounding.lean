import Decipher.Binary64.Basic
import Mathlib.Tactic.Ring

/-!
# Rounding gives canonical numbers

Whatever quotient is rounded, the result has the one spelling that its value has: its mantissa
has 53 bits, or fewer at the least exponent.  So have products and quotients of numbers.

The exponent is found by comparing `n / d` with powers of two.  `Below` says how `n / d`
compares with `c · 2 ^ e`; one step of the exponent is a factor of two in `c`.

* `ratioExponent_bounds`: the exponent that is chosen.
* `roundQuotient_le`, `le_roundQuotient`: what a quotient is rounded to lies between the naturals
  around it.
* `ofRatio_canonical`, `mul_canonical`, `div_canonical`: what is rounded is canonical.

A value has one canonical spelling, so that equality of numbers is equality of values but for the
two zeros.  The reader of numbers depends on this: a number that is read twice is the same number,
and not only an equal one.
-/

namespace Decipher

namespace Binary64

variable {n d c : Nat} {e : Int}

/-- That `n / d` is less than `c · 2 ^ e`.  It is decided with naturals, as the program does it. -/
def Below (n d c : Nat) (e : Int) : Prop := (scaleRatio n d e).1 < c * (scaleRatio n d e).2

instance : Decidable (Below n d c e) := by
  unfold Below
  infer_instance

/-- For an exponent that is not negative the power is a factor of the divisor. -/
theorem below_nonneg (k : Nat) : Below n d c (k : Int) ↔ n < c * (d * 2 ^ k) := by
  have nonneg : ¬ (k : Int) < 0 := by omega
  rw [Below, scaleRatio, if_neg nonneg, Int.natAbs_natCast, Nat.pow_eq]

/-- For a negative one it is a factor of what is divided. -/
theorem below_neg (k : Nat) : Below n d c (-(k : Int)) ↔ n * 2 ^ k < c * d := by
  cases k with
  | zero =>
    have same : -((0 : Nat) : Int) = ((0 : Nat) : Int) := by omega
    rw [same, below_nonneg, Nat.pow_zero, Nat.mul_one, Nat.mul_one]
  | succ k =>
    have negative : -((k + 1 : Nat) : Int) < 0 := by omega
    have size : (-((k + 1 : Nat) : Int)).natAbs = k + 1 := by omega
    rw [Below, scaleRatio, if_pos negative, size, Nat.pow_eq]

/-- One exponent less takes twice as many units. -/
theorem below_pred : Below n d (2 * c) (e - 1) ↔ Below n d c e := by
  obtain positive | ⟨k, rfl⟩ : (∃ k : Nat, e = (k + 1 : Nat)) ∨ ∃ k : Nat, e = -(k : Int) := by
    cases e with
    | ofNat k =>
      cases k with
      | zero => exact .inr ⟨0, rfl⟩
      | succ k => exact .inl ⟨k, rfl⟩
    | negSucc k => exact .inr ⟨k + 1, rfl⟩
  · obtain ⟨k, rfl⟩ := positive
    have lower : ((k + 1 : Nat) : Int) - 1 = (k : Int) := by omega
    have same : 2 * c * (d * 2 ^ k) = c * (d * 2 ^ (k + 1)) := by ring
    rw [lower, below_nonneg, below_nonneg, same]
  · have lower : -(k : Int) - 1 = -((k + 1 : Nat) : Int) := by omega
    have left : n * 2 ^ (k + 1) = 2 * (n * 2 ^ k) := by ring
    have right : 2 * c * d = 2 * (c * d) := by ring
    rw [lower, below_neg, below_neg, left, right]
    omega

theorem Below.mono {c' : Nat} (below : Below n d c e) (le : c ≤ c') : Below n d c' e :=
  Nat.lt_of_lt_of_le below (Nat.mul_le_mul_right _ le)

/-- A greater exponent has greater units. -/
theorem Below.raise {e' : Int} (below : Below n d c e) (le : e ≤ e') : Below n d c e' := by
  obtain ⟨k, rfl⟩ := Int.le.dest le
  induction k with
  | zero => simpa using below
  | succ k ih =>
    have step := ih (by omega)
    have twice : Below n d (2 * c) (e + ((k + 1 : Nat) : Int) - 1) := by
      have same : e + ((k + 1 : Nat) : Int) - 1 = e + (k : Int) := by omega
      rw [same]
      exact step.mono (by omega)
    exact below_pred.mp twice

/-! ## The exponent -/

/-- The first guess at an exponent is right or one too great.  It is made from the numbers of bits
of both, and the quotient of two numbers may have one bit less than these tell. -/
theorem guess_bounds (positive : 0 < n) (positive' : 0 < d) :
    Below n d (2 ^ 53) ((n.log2 : Int) - (d.log2 : Int) - 52) ∧
      ¬ Below n d (2 ^ 51) ((n.log2 : Int) - (d.log2 : Int) - 52) := by
  have lowN := Nat.log2_self_le (Nat.ne_of_gt positive)
  have highN := Nat.lt_log2_self (n := n)
  have lowD := Nat.log2_self_le (Nat.ne_of_gt positive')
  have highD := Nat.lt_log2_self (n := d)
  -- The guess is a natural or the opposite of one, and `Below` scales the one side or the other.
  obtain ⟨k, above⟩ | ⟨k, under⟩ :
      (∃ k, n.log2 = d.log2 + 52 + k) ∨ ∃ k, d.log2 + 52 = n.log2 + k := by
    obtain le | le := Nat.le_total (d.log2 + 52) n.log2
    · exact .inl (Nat.exists_eq_add_of_le le)
    · exact .inr (Nat.exists_eq_add_of_le le)
  · have guess : (n.log2 : Int) - (d.log2 : Int) - 52 = (k : Int) := by omega
    rw [guess, below_nonneg, below_nonneg, Nat.not_lt]
    constructor
    · calc n < 2 ^ (n.log2 + 1) := highN
        _ = 2 ^ 53 * (2 ^ d.log2 * 2 ^ k) := by rw [above]; ring
        _ ≤ 2 ^ 53 * (d * 2 ^ k) := by gcongr
    · calc 2 ^ 51 * (d * 2 ^ k) ≤ 2 ^ 51 * (2 ^ (d.log2 + 1) * 2 ^ k) := by gcongr
        _ = 2 ^ n.log2 := by rw [above]; ring
        _ ≤ n := lowN
  · have guess : (n.log2 : Int) - (d.log2 : Int) - 52 = -(k : Int) := by omega
    have powers : 2 ^ n.log2 * 2 ^ k = 2 ^ 52 * 2 ^ d.log2 := by
      rw [← Nat.pow_add, ← under]
      ring
    rw [guess, below_neg, below_neg, Nat.not_lt]
    constructor
    · calc n * 2 ^ k < 2 ^ (n.log2 + 1) * 2 ^ k :=
            Nat.mul_lt_mul_of_pos_right highN (Nat.two_pow_pos k)
        _ = 2 * (2 ^ n.log2 * 2 ^ k) := by ring
        _ = 2 ^ 53 * 2 ^ d.log2 := by rw [powers]; ring
        _ ≤ 2 ^ 53 * d := by gcongr
    · calc 2 ^ 51 * d ≤ 2 ^ 51 * 2 ^ (d.log2 + 1) := by gcongr
        _ = 2 ^ n.log2 * 2 ^ k := by rw [powers]; ring
        _ ≤ n * 2 ^ k := by gcongr

theorem ratioExponent_eq (n d : Nat) :
    ratioExponent n d = max minExponent
      (if Below n d (2 ^ 52) ((n.log2 : Int) - (d.log2 : Int) - 52) then
        (n.log2 : Int) - (d.log2 : Int) - 52 - 1
      else (n.log2 : Int) - (d.log2 : Int) - 52) := (rfl)

/-- At the exponent that is chosen, a quotient has at most 53 bits, and no fewer unless the exponent
is the least one. -/
theorem ratioExponent_bounds (positive : 0 < n) (positive' : 0 < d) :
    Below n d (2 ^ 53) (ratioExponent n d) ∧ minExponent ≤ ratioExponent n d ∧
      (¬ Below n d (2 ^ 52) (ratioExponent n d) ∨ ratioExponent n d = minExponent) := by
  obtain ⟨below, notBelow⟩ := guess_bounds positive positive'
  have fits (e : Int) (high : Below n d (2 ^ 53) e) (low : ¬ Below n d (2 ^ 52) e) :
      Below n d (2 ^ 53) (max minExponent e) ∧ minExponent ≤ max minExponent e ∧
        (¬ Below n d (2 ^ 52) (max minExponent e) ∨ max minExponent e = minExponent) := by
    refine ⟨high.raise (Int.le_max_right _ _), Int.le_max_left _ _, ?_⟩
    obtain least | most := Int.le_total minExponent e
    · rw [Int.max_eq_right least]
      exact .inl low
    · rw [Int.max_eq_left most]
      exact .inr rfl
  rw [ratioExponent_eq]
  split
  · rename_i small
    exact fits _ (below_pred (c := 2 ^ 52).mpr small) fun lower =>
      notBelow (below_pred (c := 2 ^ 51).mp lower)
  · rename_i large
    exact fits _ below large

/-! ## Rounding -/

/-- Rounding does not go past a natural that the quotient does not reach. -/
theorem roundQuotient_le {m : Nat} (positive : 0 < d) (below : n < m * d) :
    roundQuotient n d ≤ m := by
  have less : n / d < m := (Nat.div_lt_iff_lt_mul positive).mpr below
  unfold roundQuotient
  extract_lets quotient twice
  have parity : quotient % 2 < 2 := Nat.mod_lt _ (by decide)
  have quotientLess : quotient < m := less
  split
  · omega
  · split <;> omega

/-- Nor does it fall below one that it does reach. -/
theorem le_roundQuotient {m : Nat} (positive : 0 < d) (above : m * d ≤ n) :
    m ≤ roundQuotient n d := by
  have le : m ≤ n / d := (Nat.le_div_iff_mul_le positive).mpr above
  unfold roundQuotient
  extract_lets quotient twice
  have leQuotient : m ≤ quotient := le
  split
  · exact leQuotient
  · split <;> omega

theorem zero_canonical (negative : Bool) : (zero negative).Canonical := by
  cases negative <;> decide

theorem scaleRatio_pos (positive : 0 < d) (e : Int) : 0 < (scaleRatio n d e).2 := by
  unfold scaleRatio
  split
  · exact positive
  · exact Nat.mul_pos positive (Nat.two_pow_pos _)

/-- The mantissa that a quotient is rounded to, before a carry. -/
def roundedMantissa (n d : Nat) : Nat :=
  roundQuotient (scaleRatio n d (ratioExponent n d)).1 (scaleRatio n d (ratioExponent n d)).2

/-- Rounding, with the exponent and the mantissa by name.  A carry to 54 bits is the one case in
which they are not those of the result. -/
theorem ofRatio_eq (negative : Bool) (n d : Nat) :
    ofRatio negative n d =
      if n = 0 then some (zero negative)
      else if roundedMantissa n d = 2 ^ 53 then
        if ratioExponent n d + 1 ≤ maxExponent then
          some ⟨negative, 2 ^ 52, ratioExponent n d + 1⟩
        else none
      else if ratioExponent n d ≤ maxExponent then
        some ⟨negative, roundedMantissa n d, ratioExponent n d⟩
      else none := (rfl)

/-- **What is rounded is canonical.**  By whether the mantissa carries.  Without a carry it has 53
bits unless the exponent is the least one, and with a carry it is a power of two. -/
theorem ofRatio_canonical {negative : Bool} (positive : 0 < d) {x : Binary64}
    (rounded : ofRatio negative n d = some x) : x.Canonical := by
  rw [ofRatio_eq] at rounded
  split at rounded
  · cases rounded
    exact zero_canonical negative
  · rename_i notZero
    obtain ⟨below, least, notBelow⟩ := ratioExponent_bounds (Nat.pos_of_ne_zero notZero) positive
    have denominator := scaleRatio_pos (n := n) positive (ratioExponent n d)
    have most : roundedMantissa n d ≤ 2 ^ 53 := roundQuotient_le denominator below
    split at rounded
    · split at rounded
      · rename_i bounded
        cases rounded
        -- After a carry the mantissa is the least normal one.
        have carried : Nat.pow 2 52 < Nat.pow 2 53 := by decide
        exact ⟨carried, Int.le_add_one least, bounded, .inl (Nat.le_refl _)⟩
      · cases rounded
    · rename_i noCarry
      split at rounded
      · rename_i bounded
        cases rounded
        refine ⟨Nat.lt_of_le_of_ne most noCarry, least, bounded, ?_⟩
        obtain notBelow | same := notBelow
        · exact .inl (le_roundQuotient denominator (Nat.le_of_not_lt notBelow))
        · exact .inr same
      · cases rounded

/-! ## Arithmetic -/

theorem toRatio_pos (x : Binary64) : 0 < x.toRatio.2 := scaleRatio_pos Nat.one_pos _

theorem ofNat_canonical (negative : Bool) (n : Nat) : (ofNat negative n).Canonical := by
  unfold ofNat
  cases rounded : ofRatio negative n 1 with
  | none => exact zero_canonical negative
  | some x => exact ofRatio_canonical Nat.one_pos rounded

theorem mul_canonical {x y z : Binary64} (product : x.mul y = some z) : z.Canonical :=
  ofRatio_canonical (Nat.mul_pos x.toRatio_pos y.toRatio_pos) product

theorem div_canonical {x y z : Binary64} (quotient : x.div y = some z) : z.Canonical := by
  have unfolded : x.div y =
      if y.toRatio.1 = 0 then none
      else ofRatio (x.negative != y.negative) (x.toRatio.1 * y.toRatio.2)
        (x.toRatio.2 * y.toRatio.1) := rfl
  rw [unfolded] at quotient
  split at quotient
  · cases quotient
  · rename_i notZero
    exact ofRatio_canonical (Nat.mul_pos x.toRatio_pos (Nat.pos_of_ne_zero notZero)) quotient

/-- A sign does not show in the size. -/
theorem Canonical.signed {x : Binary64} (canonical : x.Canonical) (negative : Bool) :
    ({ x with negative := negative } : Binary64).Canonical := canonical

end Binary64

end Decipher
