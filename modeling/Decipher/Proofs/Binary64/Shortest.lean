import Decipher.Binary64.Shortest
import Decipher.Proofs.Binary64.Order

/-!
# The shortest decimal stays with its number

The shortest decimal of a number is a point of the interval of reals that round to the number,
so it is not greater than the end of that interval (`shortest_bounds`).

The interval is given in quarters of a unit of the number, with its ends at two quarters above and
at two or one below, and the search compares points of decimal grids with it.  Nothing is said here
of which point is found, nor that it is the shortest; for what is read again the upper end is
enough.

* `Decimal.value`: the magnitude of a decimal.
* `liesWithin`: the test that the search makes.
* `gridPoint?_bounds`: what is known of a point that is found.
-/

namespace Decipher

namespace Decimal

/-- The magnitude of a decimal. -/
def value (x : Decimal) : ℚ := x.digits * 10 ^ x.exponent

theorem ten_zpow_pos (e : Int) : (0 : ℚ) < 10 ^ e := zpow_pos (by norm_num) e

/-- To take zeros off the end of a decimal does not change it. -/
theorem value_trimZeros (fuel : Nat) (x : Decimal) : (trimZeros fuel x).value = x.value := by
  induction fuel generalizing x with
  | zero => rfl
  | succ fuel ih =>
    rw [trimZeros]
    split
    · rename_i trailing
      have whole : (10 * (x.digits / 10 : Nat) : ℚ) = x.digits := by
        exact_mod_cast Nat.mul_div_cancel' (Nat.dvd_of_mod_eq_zero trailing.2)
      rw [ih, value, value, ← whole, zpow_add_one₀ (by norm_num)]
      ring
    · rfl

/-- Nor does it take everything off, if there is something. -/
theorem digits_trimZeros_ne_zero (fuel : Nat) {x : Decimal} (some : x.digits ≠ 0) :
    (trimZeros fuel x).digits ≠ 0 := by
  induction fuel generalizing x with
  | zero => exact some
  | succ fuel ih =>
    rw [trimZeros]
    split
    · exact ih (by dsimp only; omega)
    · exact some

end Decimal

namespace Binary64

variable {m c : Nat} {e p : Int} {x : Binary64}

/-- A power with an exponent of either sign, by powers with naturals. -/
theorem zpow_eq_div (a : ℚ) (q : Int) : a ^ q.toNat / a ^ (-q).toNat = a ^ q := by
  obtain ⟨k, rfl | rfl⟩ := Int.eq_nat_or_neg q
  · simp
  · simp

theorem gridFactors_pos (e p : Int) : 0 < (gridFactors e p).1 ∧ 0 < (gridFactors e p).2 :=
  ⟨Nat.mul_pos (Nat.pow_pos (by decide)) (Nat.pow_pos (by decide)),
    Nat.mul_pos (Nat.pow_pos (by decide)) (Nat.pow_pos (by decide))⟩

/-- A quarter of a unit, in units of the grid.  The search compares naturals, and these are the
factors that both sides are multiplied by. -/
theorem gridFactors_eq (e p : Int) :
    ((gridFactors e p).1 : ℚ) / (gridFactors e p).2 = 2 ^ (e - 2) / 10 ^ p := by
  rw [← zpow_eq_div 2, ← zpow_eq_div 10]
  simp only [gridFactors, Nat.pow_eq]
  push_cast
  field_simp

/-- Whether a point of a grid lies in the interval of a number.  The ends belong to it if the
mantissa is even, since ties are rounded to even. -/
def liesWithin (m : Nat) (e p : Int) (c : Nat) : Bool :=
  let interval := roundingInterval m e
  let (u, g) := gridFactors e p
  if interval.closed then interval.low * u ≤ c * g && c * g ≤ interval.high * u
  else interval.low * u < c * g && c * g < interval.high * u

/-- A point of a grid that is found is one of the two that were tested, and lies in the interval. -/
theorem liesWithin_of_gridPoint? (found : gridPoint? m e p = some c) :
    liesWithin m e p c = true := by
  unfold gridPoint? at found
  extract_lets interval at found
  dsimp only at found
  split at found
  · cases found
  · rename_i lower _
    cases found
    exact lower
  · rename_i _ upper
    cases found
    exact upper
  · rename_i lower upper
    split at found
    · cases found
      exact lower
    · split at found
      · cases found
        exact upper
      -- In the middle between the two points the even one is taken.
      · generalize interval.mid * (gridFactors e p).1 / (gridFactors e p).2 = below at *
        obtain even | odd := Nat.mod_two_eq_zero_or_one below
        · rw [even] at found
          cases found
          exact lower
        · rw [odd] at found
          cases found
          exact upper

/-- The ends of the interval may belong to it or not; as a bound this makes no difference. -/
theorem bounds_of_liesWithin (lies : liesWithin m e p c = true) :
    (roundingInterval m e).low * (gridFactors e p).1 ≤ c * (gridFactors e p).2 ∧
      c * (gridFactors e p).2 ≤ (roundingInterval m e).high * (gridFactors e p).1 := by
  simp only [liesWithin] at lies
  split at lies
  · simpa using lies
  · simp only [Bool.and_eq_true, decide_eq_true_eq] at lies
    exact ⟨lies.1.le, lies.2.le⟩

/-- A point that is found is not zero, and not greater than the end of the interval.  The lower end
lies above zero, since the number does. -/
theorem gridPoint?_bounds (notZero : m ≠ 0) (found : gridPoint? m e p = some c) :
    c ≠ 0 ∧ (c : ℚ) * 10 ^ p ≤ (4 * m + 2) * 2 ^ (e - 2) := by
  obtain ⟨low, high⟩ := bounds_of_liesWithin (liesWithin_of_gridPoint? found)
  obtain ⟨unit, grid⟩ := gridFactors_pos e p
  constructor
  · rintro rfl
    have positive : 0 < (roundingInterval m e).low := by
      simp only [roundingInterval]
      split <;> omega
    have := Nat.mul_pos positive unit
    omega
  · have high : (c : ℚ) * (gridFactors e p).2 ≤ (4 * m + 2) * (gridFactors e p).1 := by
      exact_mod_cast high
    have factors := gridFactors_eq e p
    rw [div_eq_div_iff (Nat.cast_pos.mpr grid).ne' (Decimal.ten_zpow_pos p).ne'] at factors
    refine le_of_mul_le_mul_right ?_ (Nat.cast_pos.mpr grid : (0 : ℚ) < (gridFactors e p).2)
    calc (c : ℚ) * 10 ^ p * (gridFactors e p).2 = c * (gridFactors e p).2 * 10 ^ p := by ring
      _ ≤ (4 * m + 2) * (gridFactors e p).1 * 10 ^ p :=
          mul_le_mul_of_nonneg_right high (Decimal.ten_zpow_pos p).le
      _ = (4 * m + 2) * ((gridFactors e p).1 * 10 ^ p) := by ring
      _ = (4 * m + 2) * 2 ^ (e - 2) * (gridFactors e p).2 := by rw [factors]; ring

/-- **The shortest decimal of a number** is zero as zero is written, or it is not greater than the
end of the interval of the reals that round to the number.  The search goes through finer and finer
grids, and what it takes from any of them is a point of the interval. -/
theorem shortest_bounds (x : Binary64) :
    x.shortest = ⟨0, 0⟩ ∨
      x.shortest.digits ≠ 0 ∧ x.shortest.value ≤ (4 * x.mantissa + 2) * 2 ^ (x.exponent - 2) := by
  by_cases notZero : x.mantissa = 0
  · rw [shortest, if_pos notZero]
    exact .inl rfl
  rw [shortest, if_neg notZero]
  extract_lets lead found
  cases search : found with
  | none => exact .inl rfl
  | some decimal =>
    obtain ⟨k, -, is⟩ := List.exists_of_findSome?_eq_some search
    obtain ⟨digits, point, rfl⟩ := Option.map_eq_some_iff.mp is
    obtain ⟨some, high⟩ := gridPoint?_bounds notZero point
    exact .inr ⟨Decimal.digits_trimZeros_ne_zero _ some,
      (Decimal.value_trimZeros _ _).trans_le high⟩

end Binary64

end Decipher
