import Decipher.Proofs.Binary64.Rounding
import Mathlib.Algebra.Order.Field.Power
import Mathlib.Algebra.Order.Field.Rat
import Mathlib.Tactic.FieldSimp
import Mathlib.Tactic.Linarith
import Mathlib.Tactic.NormNum
import Mathlib.Tactic.Positivity
import Mathlib.Tactic.GCongr

/-!
# Rounding keeps the order

Of two quotients the greater one is not rounded to the lesser number.  So what is finite stays
finite when it is made smaller: a product when one of its factors is, and a quotient when it is
divided by one or more.

* `value`: the magnitude of a number, as a rational.
* `rounded`: what a quotient is rounded to where no bound is set to the exponent.
* `rounded_mono`: rounding keeps the order.
* `rounded_toRatio`: a number is rounded to itself.
* `ofRatio_isSome_iff`: which quotients are rounded to a finite number.
* `mul_isSome_mono`, `div_isSome`: products and quotients that are finite.

## Through exponents to the order

Rounding goes in two steps: an exponent is chosen by the size of the quotient, and then a mantissa
is rounded in units of its power of two.  The second step is monotone for one exponent, and the
first is monotone too; but the two together need an argument, for a quotient with a greater
exponent is rounded in greater units.  `Binade` has what is needed: what a quotient is rounded to
lies between the same two powers of two as the quotient itself, the upper one included.  So two
quotients with different exponents are kept apart by a power of two.

Everything is said in rationals, with `rounded` for the result, because whether a result is finite
is a comparison of it with one number (`ofRatio_isSome_iff`).
-/

namespace Decipher

namespace Binary64

variable {n d n' d' c k : Nat} {e : Int} {x y : Binary64}

/-! ## Magnitudes -/

/-- The magnitude of a number.  Its sign is left out, since rounding does not look at it. -/
def value (x : Binary64) : ℚ := x.mantissa * 2 ^ x.exponent

theorem two_zpow_pos (e : Int) : (0 : ℚ) < 2 ^ e := zpow_pos two_pos e

theorem value_nonneg (x : Binary64) : 0 ≤ x.value :=
  mul_nonneg (Nat.cast_nonneg _) (two_zpow_pos _).le

/-- A quotient in units of a power of two, as a rational. -/
theorem scaleRatio_eq (n d : Nat) (e : Int) :
    ((scaleRatio n d e).1 : ℚ) / (scaleRatio n d e).2 = n / d / 2 ^ e := by
  obtain ⟨k, rfl | rfl⟩ := Int.eq_nat_or_neg e
  · have nonneg : ¬ (k : Int) < 0 := by omega
    rw [scaleRatio, if_neg nonneg, Int.natAbs_natCast, Nat.pow_eq, zpow_natCast, div_div]
    push_cast
    rfl
  · cases k with
    | zero => simp [scaleRatio]
    | succ k =>
      have negative : -((k + 1 : Nat) : Int) < 0 := by omega
      rw [scaleRatio, if_pos negative, Int.natAbs_neg, Int.natAbs_natCast, Nat.pow_eq, zpow_neg,
        zpow_natCast, div_inv_eq_mul]
      push_cast
      ring

/-- A number as a quotient is its magnitude. -/
theorem toRatio_eq (x : Binary64) : (x.toRatio.1 : ℚ) / x.toRatio.2 = x.value := by
  rw [toRatio, scaleRatio_eq, Nat.cast_one, div_one, zpow_neg, div_inv_eq_mul, value]

/-- What `Below` says of naturals is an inequality between rationals. -/
theorem below_iff (positive : 0 < d) : Below n d c e ↔ (n : ℚ) / d < c * 2 ^ e := by
  have denominator : (0 : ℚ) < (scaleRatio n d e).2 :=
    Nat.cast_pos.mpr (scaleRatio_pos positive e)
  rw [← div_lt_iff₀ (two_zpow_pos e), ← scaleRatio_eq, div_lt_iff₀ denominator, Below]
  exact_mod_cast Iff.rfl

/-! ## Rounding to a natural -/

/-- A quotient is rounded to no more than a natural if it lies below the middle between this one
and the next, or in the middle if this one is even. -/
theorem roundQuotient_le_iff (positive : 0 < d) :
    roundQuotient n d ≤ k ↔ 2 * n < (2 * k + 1) * d ∨ (2 * n = (2 * k + 1) * d ∧ k % 2 = 0) := by
  have split : d * (n / d) + n % d = n := Nat.div_add_mod n d
  have small := Nat.mod_lt n positive
  simp only [roundQuotient]
  generalize n / d = q at *
  generalize n % d = r at *
  subst split
  -- The whole part decides, unless it is the natural itself; only then does the half matter.
  obtain less | rfl | more := Nat.lt_trichotomy q k
  · have : d * (q + 1) ≤ d * k := Nat.mul_le_mul_left d less
    have : 2 * (d * q + r) < (2 * k + 1) * d := by nlinarith
    refine iff_of_true ?_ (.inl this)
    split
    · omega
    · split <;> omega
  · have : (2 * q + 1) * d = 2 * (d * q) + d := by ring
    rw [this]
    split
    · omega
    · split <;> omega
  · have : d * (k + 1) ≤ d * q := Nat.mul_le_mul_left d more
    have : (2 * k + 1) * d < 2 * (d * q + r) := by nlinarith
    refine iff_of_false ?_ (by omega)
    split
    · omega
    · split <;> omega

/-- The greater of two quotients is not rounded to the lesser natural. -/
theorem roundQuotient_mono (positive : 0 < d) (positive' : 0 < d') (le : n * d' ≤ n' * d) :
    roundQuotient n d ≤ roundQuotient n' d' := by
  rw [roundQuotient_le_iff positive]
  obtain less | ⟨same, even⟩ :=
    (roundQuotient_le_iff positive').mp (Nat.le_refl (roundQuotient n' d'))
  · refine .inl (Nat.lt_of_mul_lt_mul_right (a := d') ?_)
    nlinarith
  · have le : 2 * n * d' ≤ (2 * roundQuotient n' d' + 1) * d * d' := by nlinarith
    obtain less | same := Nat.lt_or_eq_of_le (Nat.le_of_mul_le_mul_right le positive')
    · exact .inl less
    · exact .inr ⟨same, even⟩

/-! ## Rounding -/

/-- What a quotient is rounded to where no bound is set to the exponent.  It is defined for all
quotients, while `ofRatio` fails for those that are too great. -/
def rounded (n d : Nat) : ℚ := roundedMantissa n d * 2 ^ ratioExponent n d

theorem rounded_nonneg (n d : Nat) : 0 ≤ rounded n d :=
  mul_nonneg (Nat.cast_nonneg _) (two_zpow_pos _).le

theorem roundedMantissa_zero (positive : 0 < d) : roundedMantissa 0 d = 0 := by
  have nothing : (scaleRatio 0 d (ratioExponent 0 d)).1 = 0 := by
    unfold scaleRatio
    split
    · exact Nat.zero_mul _
    · rfl
  refine Nat.le_zero.mp ((roundQuotient_le_iff (scaleRatio_pos positive _)).mpr (.inl ?_))
  rw [nothing]
  have denominator := scaleRatio_pos (n := 0) positive (ratioExponent 0 d)
  omega

/-- Where a quotient and what it is rounded to lie.  Above the least exponent both lie between two
powers of two; at the least exponent there is no lower end. -/
structure Binade (n d : Nat) : Prop where
  least : minExponent ≤ ratioExponent n d
  below : (n : ℚ) / d < 2 ^ 53 * 2 ^ ratioExponent n d
  above : minExponent < ratioExponent n d → 2 ^ 52 * 2 ^ ratioExponent n d ≤ (n : ℚ) / d
  most : roundedMantissa n d ≤ 2 ^ 53
  normal : minExponent < ratioExponent n d → 2 ^ 52 ≤ roundedMantissa n d

/-- The exponent that is chosen for a quotient is the one of its binade. -/
theorem binade (positive : 0 < n) (positive' : 0 < d) : Binade n d := by
  obtain ⟨below, least, notBelow⟩ := ratioExponent_bounds positive positive'
  have denominator := scaleRatio_pos (n := n) positive' (ratioExponent n d)
  have high (greater : minExponent < ratioExponent n d) :
      ¬ Below n d (2 ^ 52) (ratioExponent n d) :=
    notBelow.resolve_right (Int.ne_of_gt greater)
  refine ⟨least, ?_, fun greater => ?_, roundQuotient_le denominator below, fun greater => ?_⟩
  · exact_mod_cast (below_iff positive').mp below
  · exact_mod_cast not_lt.mp (mt (below_iff positive').mpr (high greater))
  · exact le_roundQuotient denominator (Nat.le_of_not_lt (high greater))

/-- Rounding may reach the next power of two, and goes no further. -/
theorem Binade.rounded_le (b : Binade n d) : rounded n d ≤ 2 ^ 53 * 2 ^ ratioExponent n d := by
  have most : (roundedMantissa n d : ℚ) ≤ 2 ^ 53 := by exact_mod_cast b.most
  exact mul_le_mul_of_nonneg_right most (two_zpow_pos _).le

/-- It does not leave the binade at its lower end either. -/
theorem Binade.le_rounded (b : Binade n d) (greater : minExponent < ratioExponent n d) :
    2 ^ 52 * 2 ^ ratioExponent n d ≤ rounded n d := by
  have normal : (2 ^ 52 : ℚ) ≤ roundedMantissa n d := by exact_mod_cast b.normal greater
  exact mul_le_mul_of_nonneg_right normal (two_zpow_pos _).le

/-- With a greater exponent the least mantissa of 53 bits makes as much as the first one that
has more bits. -/
theorem binade_le {e' : Int} (less : e < e') : (2 : ℚ) ^ 53 * 2 ^ e ≤ 2 ^ 52 * 2 ^ e' := by
  calc (2 : ℚ) ^ 53 * 2 ^ e = 2 ^ 52 * 2 ^ (e + 1) := by rw [zpow_add_one₀ two_ne_zero]; ring
    _ ≤ 2 ^ 52 * 2 ^ e' := by
      gcongr
      · exact one_le_two
      · exact less

/-- With one exponent for both quotients rounding is that of naturals. -/
theorem roundQuotient_scaleRatio_mono (positive : 0 < d) (positive' : 0 < d')
    (le : (n : ℚ) / d ≤ n' / d') (e : Int) :
    roundQuotient (scaleRatio n d e).1 (scaleRatio n d e).2 ≤
      roundQuotient (scaleRatio n' d' e).1 (scaleRatio n' d' e).2 := by
  have denominator := scaleRatio_pos (n := n) positive e
  have denominator' := scaleRatio_pos (n := n') positive' e
  have scaled := div_le_div_of_nonneg_right le (two_zpow_pos e).le
  rw [← scaleRatio_eq, ← scaleRatio_eq,
    div_le_div_iff₀ (Nat.cast_pos.mpr denominator) (Nat.cast_pos.mpr denominator')] at scaled
  exact roundQuotient_mono denominator denominator' (by exact_mod_cast scaled)

/-- **Rounding keeps the order.**  Quotients in one binade are rounded to naturals in one unit; of
two in different binades the power of two between them separates what they are rounded to. -/
theorem rounded_mono (positive : 0 < d) (positive' : 0 < d') (le : (n : ℚ) / d ≤ n' / d') :
    rounded n d ≤ rounded n' d' := by
  obtain rfl | some := Nat.eq_zero_or_pos n
  · rw [rounded, roundedMantissa_zero positive, Nat.cast_zero, zero_mul]
    exact rounded_nonneg n' d'
  have some' : 0 < n' := by
    have quotient : (0 : ℚ) < n' / d' :=
      lt_of_lt_of_le (div_pos (Nat.cast_pos.mpr some) (Nat.cast_pos.mpr positive)) le
    obtain rfl | some' := Nat.eq_zero_or_pos n'
    · simp at quotient
    · exact some'
  have b := binade some positive
  have b' := binade some' positive'
  obtain less | same | more := Int.lt_trichotomy (ratioExponent n d) (ratioExponent n' d')
  · exact b.rounded_le.trans ((binade_le less).trans (b'.le_rounded (b.least.trans_lt less)))
  · rw [rounded, rounded, roundedMantissa, roundedMantissa, same]
    refine mul_le_mul_of_nonneg_right (Nat.cast_le.mpr ?_) (two_zpow_pos _).le
    exact roundQuotient_scaleRatio_mono positive positive' le _
  · exact absurd le (not_le.mpr (b'.below.trans_le
      ((binade_le more).trans (b.above (b'.least.trans_lt more)))))

theorem value_zero (negative : Bool) : (zero negative).value = 0 := by
  rw [value, zero, Nat.cast_zero, zero_mul]

/-- What a quotient is rounded to is what it is rounded to without a bound, if that is finite.  A
carry past 53 bits is written with another exponent, and is the same number. -/
theorem value_ofRatio {negative : Bool} (positive : 0 < d) (is : ofRatio negative n d = some x) :
    x.value = rounded n d := by
  rw [ofRatio_eq] at is
  split at is
  · rename_i nothing
    cases is
    rw [nothing, value_zero, rounded, roundedMantissa_zero positive, Nat.cast_zero, zero_mul]
  · split at is
    · rename_i carry
      split at is
      · cases is
        rw [value, rounded, carry, zpow_add_one₀ two_ne_zero]
        push_cast
        ring
      · cases is
    · split at is
      · cases is
        rfl
      · cases is

/-- Behind the greatest exponent comes the first power of two that is not finite. -/
theorem two_pow_eq : (2 : ℚ) ^ 1024 = 2 ^ 53 * 2 ^ maxExponent := by
  have exponent : maxExponent = (971 : Nat) := rfl
  rw [exponent, zpow_natCast, ← pow_add]

/-- A quotient is rounded to a finite number if what it is rounded to is less than the first power
of two that is none. -/
theorem ofRatio_isSome_iff (negative : Bool) (positive : 0 < d) :
    (ofRatio negative n d).isSome = true ↔ rounded n d < 2 ^ 1024 := by
  rw [ofRatio_eq]
  split
  · rename_i nothing
    rw [nothing, rounded, roundedMantissa_zero positive, Nat.cast_zero, zero_mul]
    exact iff_of_true rfl (by positivity)
  · rename_i some
    have b := binade (Nat.pos_of_ne_zero some) positive
    split
    · -- The mantissa is rounded up to a power of two, so the exponent is one more.
      rename_i carry
      have whole : rounded n d = 2 ^ 53 * 2 ^ ratioExponent n d := by
        rw [rounded, carry]
        push_cast
        rfl
      rw [whole, two_pow_eq, mul_lt_mul_iff_right₀ (by positivity),
        zpow_lt_zpow_iff_right₀ one_lt_two]
      split
      · exact iff_of_true rfl (Int.lt_of_add_one_le ‹_›)
      · exact iff_of_false nofun (mt Int.add_one_le_of_lt ‹_›)
    · rename_i noCarry
      split
      · rename_i bounded
        have less : (roundedMantissa n d : ℚ) < 2 ^ 53 := by
          exact_mod_cast Nat.lt_of_le_of_ne b.most noCarry
        refine iff_of_true rfl ?_
        calc rounded n d < 2 ^ 53 * 2 ^ ratioExponent n d :=
              mul_lt_mul_of_pos_right less (two_zpow_pos _)
          _ ≤ 2 ^ 53 * 2 ^ maxExponent := by
              gcongr
              exact one_le_two
          _ = 2 ^ 1024 := two_pow_eq.symm
      · rename_i unbounded
        -- A normal mantissa has 53 bits, which is too much above the greatest exponent.
        have greater : maxExponent < ratioExponent n d := Int.not_le.mp unbounded
        refine iff_of_false nofun (not_lt.mpr ?_)
        calc (2 : ℚ) ^ 1024 = 2 ^ 53 * 2 ^ maxExponent := two_pow_eq
          _ ≤ 2 ^ 52 * 2 ^ ratioExponent n d := binade_le greater
          _ ≤ rounded n d := b.le_rounded (Int.lt_trans (by decide) greater)

/-! ## Numbers are rounded to themselves -/

/-- A mantissa has 53 bits at most. -/
theorem Canonical.value_below (canonical : x.Canonical) : x.value < 2 ^ 53 * 2 ^ x.exponent := by
  have less : (x.mantissa : ℚ) < 2 ^ 53 := by exact_mod_cast canonical.1
  exact mul_lt_mul_of_pos_right less (two_zpow_pos _)

/-- So a number is less than the first power of two that is none. -/
theorem Canonical.value_lt (canonical : x.Canonical) : x.value < 2 ^ 1024 := by
  obtain ⟨-, -, most, -⟩ := id canonical
  calc x.value < 2 ^ 53 * 2 ^ x.exponent := canonical.value_below
    _ ≤ 2 ^ 53 * 2 ^ maxExponent := by
        gcongr
        exact one_le_two
    _ = 2 ^ 1024 := two_pow_eq.symm

/-- The exponent of a number is the one that its magnitude asks for. -/
theorem ratioExponent_toRatio (canonical : x.Canonical) (some : 0 < x.toRatio.1) :
    ratioExponent x.toRatio.1 x.toRatio.2 = x.exponent := by
  obtain ⟨least, below, above, -, -⟩ := binade some x.toRatio_pos
  rw [x.toRatio_eq] at below above
  obtain less | same | more :=
    Int.lt_trichotomy (ratioExponent x.toRatio.1 x.toRatio.2) x.exponent
  · obtain normal | same := canonical.2.2.2
    · have normal : (2 ^ 52 : ℚ) ≤ x.mantissa := by exact_mod_cast normal
      have high : 2 ^ 52 * 2 ^ x.exponent ≤ x.value :=
        mul_le_mul_of_nonneg_right normal (two_zpow_pos _).le
      exact absurd (below.trans_le ((binade_le less).trans high)) (lt_irrefl _)
    · omega
  · exact same
  · have low := canonical.value_below.trans_le (binade_le more)
    exact absurd (low.trans_le (above (canonical.2.1.trans_lt more))) (lt_irrefl _)

/-- **A number is rounded to itself.**  For zero there is no exponent to speak of.  So what is
written with enough digits can be read back: the text only has to be worth the number exactly. -/
theorem rounded_toRatio (canonical : x.Canonical) : rounded x.toRatio.1 x.toRatio.2 = x.value := by
  have positive := x.toRatio_pos
  obtain nothing | some := Nat.eq_zero_or_pos x.toRatio.1
  · rw [← x.toRatio_eq, nothing, rounded, roundedMantissa_zero positive, Nat.cast_zero, zero_mul,
      zero_div]
  have same := ratioExponent_toRatio canonical some
  have denominator := scaleRatio_pos (n := x.toRatio.1) positive x.exponent
  have quotient := scaleRatio_eq x.toRatio.1 x.toRatio.2 x.exponent
  rw [x.toRatio_eq, value, mul_div_cancel_right₀ _ (two_zpow_pos _).ne',
    div_eq_iff (Nat.cast_pos.mpr denominator).ne'] at quotient
  have whole : (scaleRatio x.toRatio.1 x.toRatio.2 x.exponent).1 =
      x.mantissa * (scaleRatio x.toRatio.1 x.toRatio.2 x.exponent).2 := by exact_mod_cast quotient
  have mantissa : roundedMantissa x.toRatio.1 x.toRatio.2 = x.mantissa := by
    rw [roundedMantissa, same, whole]
    refine Nat.le_antisymm ((roundQuotient_le_iff denominator).mpr (.inl ?_))
      (le_roundQuotient denominator (Nat.le_refl _))
    rw [← Nat.mul_assoc]
    exact Nat.mul_lt_mul_of_pos_right (Nat.lt_succ_self _) denominator
  rw [rounded, mantissa, same, value]

/-! ## Products and quotients -/

/-- A product is the rounded product of the quotients. -/
theorem mul_eq (x y : Binary64) :
    x.mul y = ofRatio (x.negative != y.negative) (x.toRatio.1 * y.toRatio.1)
      (x.toRatio.2 * y.toRatio.2) := (rfl)

/-- The product of numbers that are no greater is finite too, whatever their signs are. -/
theorem mul_isSome_mono {x' y' : Binary64} (le : x.value ≤ x'.value) (le' : y.value ≤ y'.value)
    (finite : (x'.mul y').isSome = true) : (x.mul y).isSome = true := by
  have product (x y : Binary64) :
      ((x.toRatio.1 * y.toRatio.1 : Nat) : ℚ) / (x.toRatio.2 * y.toRatio.2 : Nat) =
        x.value * y.value := by
    rw [← x.toRatio_eq, ← y.toRatio_eq, div_mul_div_comm]
    push_cast
    rfl
  have positive (x y : Binary64) : 0 < x.toRatio.2 * y.toRatio.2 :=
    Nat.mul_pos x.toRatio_pos y.toRatio_pos
  rw [mul_eq, ofRatio_isSome_iff _ (positive _ _)] at finite ⊢
  refine (rounded_mono (positive x y) (positive x' y') ?_).trans_lt finite
  rw [product, product]
  exact mul_le_mul le le' y.value_nonneg x'.value_nonneg

/-- To divide by one or more leaves a number finite. -/
theorem div_isSome (canonical : x.Canonical) (large : 1 ≤ y.value) :
    (x.div y).isSome = true := by
  have some : 0 < y.toRatio.1 := by
    refine Nat.pos_of_ne_zero fun nothing => ?_
    rw [← y.toRatio_eq, nothing, Nat.cast_zero, zero_div] at large
    exact absurd large (not_le.mpr one_pos)
  have divided : x.div y = ofRatio (x.negative != y.negative) (x.toRatio.1 * y.toRatio.2)
      (x.toRatio.2 * y.toRatio.1) := if_neg some.ne'
  have positive := Nat.mul_pos x.toRatio_pos some
  rw [divided, ofRatio_isSome_iff _ positive]
  refine (rounded_mono positive x.toRatio_pos ?_).trans_lt
    ((rounded_toRatio canonical).trans_lt canonical.value_lt)
  have quotient : ((x.toRatio.1 * y.toRatio.2 : Nat) : ℚ) / (x.toRatio.2 * y.toRatio.1 : Nat) =
      x.value / y.value := by
    rw [← x.toRatio_eq, ← y.toRatio_eq, div_div_div_eq]
    push_cast
    rfl
  rw [quotient, x.toRatio_eq]
  exact div_le_self x.value_nonneg large

/-! ## Powers of ten -/

/-- A natural that is rounded to a finite number. -/
theorem value_ofNat (negative : Bool) (finite : (ofRatio negative n 1).isSome = true) :
    (ofNat negative n).value = rounded n 1 := by
  obtain ⟨x, is⟩ := Option.isSome_iff_exists.mp finite
  rw [ofNat, is, Option.getD_some, value_ofRatio Nat.one_pos is]

/-- The nearest number to a natural is finite if that to a greater one is. -/
theorem ofRatio_isSome_of_le {m : Nat} (le : n ≤ m)
    (finite : (ofRatio false m 1).isSome = true) : (ofRatio false n 1).isSome = true := by
  rw [ofRatio_isSome_iff _ Nat.one_pos] at finite ⊢
  refine (rounded_mono Nat.one_pos Nat.one_pos ?_).trans_lt finite
  gcongr

/-- A greater natural has no lesser number. -/
theorem ofNat_mono {m : Nat} (le : n ≤ m) (finite : (ofRatio false m 1).isSome = true) :
    (ofNat false n).value ≤ (ofNat false m).value := by
  rw [value_ofNat _ finite, value_ofNat _ (ofRatio_isSome_of_le le finite)]
  refine rounded_mono Nat.one_pos Nat.one_pos ?_
  gcongr

/-- The powers of ten that the reader uses are finite. -/
theorem ofRatio_pow10_isSome (small : k ≤ maxPow10) :
    (ofRatio false (Nat.pow 10 k) 1).isSome = true := by
  have greatest : (ofRatio false (Nat.pow 10 maxPow10) 1).isSome = true := by decide +kernel
  refine ofRatio_isSome_of_le ?_ greatest
  rw [Nat.pow_eq, Nat.pow_eq]
  exact Nat.pow_le_pow_right (by decide) small

theorem pow10_mono {j : Nat} (le : j ≤ k) (small : k ≤ maxPow10) :
    (pow10 j).value ≤ (pow10 k).value := by
  refine ofNat_mono ?_ (ofRatio_pow10_isSome small)
  rw [Nat.pow_eq, Nat.pow_eq]
  exact Nat.pow_le_pow_right (by decide) le

theorem one_le_pow10 (small : k ≤ maxPow10) : 1 ≤ (pow10 k).value := by
  have one : (pow10 0).value = 1 := by
    have is : pow10 0 = ⟨false, 2 ^ 52, -52⟩ := by decide +kernel
    rw [is, value]
    norm_num
  exact one.symm.trans_le (pow10_mono (Nat.zero_le k) small)

end Binary64

end Decipher
