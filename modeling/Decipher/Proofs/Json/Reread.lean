import Decipher.Proofs.Binary64.Shortest
import Decipher.Proofs.Json.RoundTrip
import Decipher.Proofs.Json.WellFormed

/-!
# What is written can be read

A number that is written is read as a number again, though not always as the same one
(`Number.reread`).  This is not a matter of course.  A reader scales a significand with a rounding
of its own for each step, and can so be carried past the greatest finite number by a decimal that
lies below it.  Up to `readable` it never is, and there lie the texts of all numbers but the
greatest.

* `Numeral.scale_isSome`: up to `readable` every significand is scaled to a finite number.
* `Decimal.plainText_succeeds`, `Decimal.scientificText_succeeds`: the two forms of a decimal.
* `Number.reread_isSome`: every number can be read again.
* `Json.parse_text_of_fits`: so can every value that is not nested too deeply.

## Why the reader could fail

A decimal is read in two roundings: its digits become a number, and this is multiplied by a power
of ten or divided by one.  Each of them may go up.  So a decimal that lies below the greatest
finite number, and is rounded to it if it is rounded once, may come to more than that, and then the
reader refuses it.  There are such decimals.  What has to be shown is that no number has one of
them for its text.

The shortest decimal of a number lies in the interval of the reals that are rounded to the number
(`Binary64.shortest_bounds`).  For all numbers but the greatest this is bounded by the end of the
interval of the second greatest, which is `readable`.  Below it both roundings stay finite; this is
shown for the greatest significand with each exponent by computation, and carries over to the
others because rounding keeps the order.  The greatest number is left, and its text is read by
computation.
-/

namespace Decipher

namespace Numeral

open Binary64

variable {s t k : Nat} {e : Int}

/-! ## Scaling -/

/-- The end of the interval of the reals that round to the second greatest number.  Below it nothing
overflows, however the reader scales what it has taken. -/
@[irreducible]
def readable : Nat := (4 * (Nat.pow 2 53 - 2) + 2) * Nat.pow 2 (Binary64.maxExponent.toNat - 2)

/-- It has no more digits than the greatest power of ten that the reader multiplies by. -/
theorem readable_lt : readable < 10 ^ (maxPow10 + 1) := by decide +kernel

/-- The greatest exponent with which every word keeps within `readable`. -/
def wordExponent : Nat := 288

/-- With this exponent no word is too great. -/
theorem words_within : Nat.pow 2 64 * 10 ^ wordExponent ≤ readable := by decide +kernel

theorem le_maxPow10_of_within (within : 10 ^ k ≤ readable) : k ≤ maxPow10 := by
  have less : 10 ^ k < 10 ^ (maxPow10 + 1) := within.trans_lt readable_lt
  have bounded : k < maxPow10 + 1 := (Nat.pow_lt_pow_iff_right (by decide)).mp less
  exact Nat.lt_add_one_iff.mp bounded

/-- The greatest significand that keeps within `readable` with an exponent.  For small exponents
this is the greatest word. -/
def greatestSignificand (k : Nat) : Nat := min (Nat.pow 2 64 - 1) (readable / Nat.pow 10 k)

/-- What is finite for the greatest significand is so for the others.  For less than `wordExponent`
the greatest one is no other than for that.  There are twenty-one exponents to look at, and this is
done by computation. -/
theorem mul_greatestSignificand_isSome (least : wordExponent ≤ k) (most : k ≤ maxPow10) :
    ((Binary64.ofNat false (greatestSignificand k)).mul (.pow10 k)).isSome = true := by
  have last : ∀ j ≤ 20, ((Binary64.ofNat false (greatestSignificand (wordExponent + j))).mul
      (.pow10 (wordExponent + j))).isSome = true := by decide +kernel
  obtain ⟨j, rfl⟩ := Nat.exists_eq_add_of_le least
  exact last j (Nat.add_le_add_iff_left.mp most)

/-- A word is rounded to a finite number. -/
theorem ofRatio_word_isSome (word : s < Nat.pow 2 64) :
    (ofRatio false s 1).isSome = true := by
  have greatest : (ofRatio false (Nat.pow 2 64) 1).isSome = true := by decide +kernel
  exact ofRatio_isSome_of_le word.le greatest

/-- Division makes a number smaller, so that it stays finite. -/
theorem scale_isSome_of_neg (negative : Bool) (s : Nat) (below : e < 0) :
    (scale negative s e).isSome = true := by
  unfold scale
  extract_lets x signed magnitude times small
  split
  · rfl
  · rw [if_neg (Int.not_le.mpr below)]
    split
    · rfl
    · have canonical : small.Canonical := shrink_canonical times (ofNat_canonical false s)
      have last : magnitude - times * maxPow10 ≤ maxPow10 := by
        have steps : times = (magnitude - 1) / maxPow10 := rfl
        rw [maxPow10] at steps ⊢
        omega
      rw [Option.isSome_map]
      exact div_isSome canonical (one_le_pow10 last)

/-- Multiplication does not carry a significand past the greatest number, as long as it keeps within
`readable`: the product is at most that of the greatest significand, for rounding keeps the order.
-/
theorem mul_pow10_isSome (small : k ≤ maxPow10) (word : s < Nat.pow 2 64)
    (within : s * 10 ^ k ≤ readable) : ((Binary64.ofNat false s).mul (.pow10 k)).isSome = true := by
  have within : s * 10 ^ max k wordExponent ≤ readable := by
    obtain le | le := Nat.le_total wordExponent k
    · rw [Nat.max_eq_left le]
      exact within
    · rw [Nat.max_eq_right le]
      exact (Nat.mul_le_mul_right _ word.le).trans words_within
  have most : max k wordExponent ≤ maxPow10 := Nat.max_le.mpr ⟨small, by decide⟩
  have le : s ≤ greatestSignificand (max k wordExponent) :=
    Nat.le_min.mpr ⟨Nat.le_pred_of_lt word,
      (Nat.le_div_iff_mul_le (Nat.pow_pos (by decide))).mpr within⟩
  have word : greatestSignificand (max k wordExponent) < Nat.pow 2 64 :=
    Nat.lt_of_le_of_lt (Nat.min_le_left _ _) (by decide)
  exact mul_isSome_mono (ofNat_mono le (ofRatio_word_isSome word))
    (pow10_mono (Nat.le_max_left _ _) most)
    (mul_greatestSignificand_isSome (Nat.le_max_right _ _) most)

/-- **Up to `readable`, every significand is scaled to a finite number.**  The bound is for the
exact value; what the reader computes is rounded twice. -/
theorem scale_isSome (negative : Bool) (word : s < Nat.pow 2 64)
    (within : (s : ℚ) * 10 ^ e ≤ readable) : (scale negative s e).isSome = true := by
  obtain below | nonneg := Int.lt_or_le e 0
  · exact scale_isSome_of_neg negative s below
  obtain ⟨k, rfl⟩ := Int.eq_ofNat_of_zero_le nonneg
  rw [zpow_natCast] at within
  have within : s * 10 ^ k ≤ readable := by exact_mod_cast within
  obtain nothing | some := Nat.eq_zero_or_pos s
  · subst nothing
    rfl
  have bounded := le_maxPow10_of_within ((Nat.le_mul_of_pos_left _ some).trans within)
  have finite := mul_pow10_isSome bounded word within
  unfold scale
  extract_lets x signed magnitude times small
  split
  · rfl
  · rw [if_pos (Int.ofNat_le.mpr bounded), Option.isSome_map]
    exact finite

/-! ## Reading -/

/-- A reading that finds something.  What it finds is of no interest here, since only a fault could
keep a value from being read again. -/
def Succeeds {α : Type} (reading : Reading α) : Prop := ∃ found, reading = .ok found

/-- So a number ends well. -/
theorem finish_succeeds (negative : Bool) (word : s < Nat.pow 2 64)
    (within : (s : ℚ) * 10 ^ e ≤ readable) (rest : List Char) :
    Succeeds (finish negative s e rest) := by
  obtain ⟨x, scaled⟩ := Option.isSome_iff_exists.mp (scale_isSome negative word within)
  refine ⟨(.real x, rest), ?_⟩
  unfold finish
  rw [scaled]

/-- A smaller significand with a smaller exponent keeps within `readable`, too. -/
theorem within_of_le (le : s ≤ t) (low : e ≤ k) (within : t * 10 ^ k ≤ readable) :
    (s : ℚ) * 10 ^ e ≤ readable := by
  calc (s : ℚ) * 10 ^ e ≤ t * 10 ^ (k : Int) := by
        gcongr
        norm_num
    _ ≤ readable := by
        rw [zpow_natCast]
        exact_mod_cast within

/-- No word is too great for a small exponent. -/
theorem word_within (word : s < Nat.pow 2 64) (low : e ≤ wordExponent) :
    (s : ℚ) * 10 ^ e ≤ readable :=
  within_of_le word.le low words_within

/-- Digits behind a point are taken into the significand or dropped.  Those that are dropped make
the number smaller, and not those that are taken, because the exponent goes down with each of them.
-/
theorem readFraction_digits (negative : Bool) (significand : Nat) (start : Int) {ds : List Char}
    (digits : Digits ds) (some : ds ≠ []) :
    ∃ s taken left, taken + left = ds.length ∧ s * 10 ^ left ≤ Nat.ofDigitChars 10 ds significand ∧
      (significand < Nat.pow 2 64 → s < Nat.pow 2 64) ∧
      ∀ rest, startsWithDigit rest = false →
        readFraction negative significand start (ds ++ rest) =
          readTail negative s (start - taken) rest := by
  obtain ⟨s, taken, left, more, count, most, took⟩ := takeSignificand_digits digits significand 0
  rw [Nat.zero_add] at count
  refine ⟨s, taken, left.length, count, most, fun word => ?_, fun rest noDigit => ?_⟩
  · have lt := takeSignificand_lt word 0 (ds ++ [])
    rw [took [] rfl] at lt
    exact lt
  · by_cases long : left = []
    · subst long
      have counted : taken ≠ 0 := by
        rintro rfl
        exact some (List.eq_nil_of_length_eq_zero count.symm)
      simp only [readFraction, took rest noDigit, List.nil_append, noDigit, counted,
        Bool.false_eq_true, if_false]
    · simp only [readFraction, took rest noDigit, startsWithDigit_of_digits more long,
        dropDigits_digits more 0 noDigit, if_true]

/-- A fraction with no exponent behind it is read, whatever it is. -/
theorem readFraction_succeeds (negative : Bool) (word : s < Nat.pow 2 64) {start : Nat}
    (low : start ≤ wordExponent) {ds : List Char} (digits : Digits ds) (some : ds ≠ []) :
    Succeeds (readFraction negative s start ds) := by
  obtain ⟨t, taken, left, -, -, keeps, reads⟩ := readFraction_digits negative s start digits some
  have whole := reads [] rfl
  rw [List.append_nil] at whole
  rw [whole]
  exact finish_succeeds negative (keeps word) (word_within (keeps word) (by omega)) []

/-- Digits of a whole part, of which the first is no zero unless it stands alone.  The reader finds
a fault in a digit behind such a zero. -/
def NoLeadingZero (ds : List Char) : Prop := ds = ['0'] ∨ ∃ d rest, ds = d :: rest ∧ d ≠ '0'

/-- A number with a point and no exponent is read, if the whole part has no more digits than
`readable` has room for. -/
theorem read_plain_succeeds (negative : Bool) {ds fs : List Char} (digits : Digits ds)
    (lead : NoLeadingZero ds) (short : ds.length ≤ wordExponent) (digits' : Digits fs)
    (some : fs ≠ []) : Succeeds (read negative (ds ++ '.' :: fs)) := by
  -- A leading zero stands alone before the point.
  obtain rfl | ⟨d, rest, rfl, notZero⟩ := lead
  · have reads : read negative (['0'] ++ '.' :: fs) = readFraction negative 0 0 fs := rfl
    rw [reads]
    exact readFraction_succeeds negative (by decide) (Nat.zero_le _) digits' some
  · obtain ⟨first, others⟩ := digits_cons.mp digits
    obtain ⟨s, taken, left, more, count, -, took⟩ := takeSignificand_digits others (digitValue d) 0
    have noDigit : startsWithDigit ('.' :: fs) = false := rfl
    have took := took _ noDigit
    have word : s < Nat.pow 2 64 := by
      have lt := takeSignificand_lt (Nat.lt_trans (digitValue_lt first) (by decide)) 0
        (rest ++ '.' :: fs)
      rw [took] at lt
      exact lt
    rw [List.length_cons] at short
    -- Digits that do not fit into the word are counted, and their number is added to the exponent.
    by_cases long : left = []
    · have reads : read negative (d :: rest ++ '.' :: fs) = readFraction negative s 0 fs := by
        subst long
        simp only [List.cons_append, read, notZero, first, took, List.nil_append, if_false, if_true]
        rfl
      rw [reads]
      exact readFraction_succeeds negative word (Nat.zero_le _) digits' some
    · have reads : read negative (d :: rest ++ '.' :: fs) =
          readFraction negative s left.length fs := by
        simp only [List.cons_append, read, notZero, first, took,
          startsWithDigit_of_digits more long, dropDigits_digits more 0 noDigit, Nat.zero_add,
          if_false, if_true]
        rfl
      rw [reads]
      exact readFraction_succeeds negative word (by omega) digits' some

/-- An exponent within bounds is read as what it is. -/
theorem takeExponent_ofDigitChars {ds : List Char} (digits : Digits ds) (exponent : Nat)
    (fits : Nat.ofDigitChars 10 ds exponent ≤ maxExponent) :
    takeExponent exponent ds = (true, Nat.ofDigitChars 10 ds exponent, []) := by
  induction ds generalizing exponent with
  | nil => rfl
  | cons d ds ih =>
    obtain ⟨first, others⟩ := digits_cons.mp digits
    rw [Nat.ofDigitChars_cons, Nat.mul_comm] at fits
    have within : ¬ maxExponent < exponent * 10 + digitValue d :=
      Nat.not_lt.mpr (Nat.le_trans (le_ofDigitChars ds _) fits)
    have rest := ih others (exponent * 10 + digitValue d) fits
    simp only [takeExponent, first, within, if_true, if_false, rest, Nat.ofDigitChars_cons,
      Nat.mul_comm 10]
    rfl

/-- An exponent that is not negative is read if the number keeps within `readable` with it. -/
theorem readExponent_plus_succeeds (negative : Bool) (word : s < Nat.pow 2 64) {start : Int}
    (bounded : k ≤ maxExponent) (within : (s : ℚ) * 10 ^ (start + k) ≤ readable) :
    Succeeds (readExponent negative s start ('+' :: Decimal.digitChars k)) := by
  have digits := digits_digitChars k
  have value := ofDigitChars_digitChars k
  rw [readExponent_signed negative s start (.inl rfl)]
  cases chars : Decimal.digitChars k with
  | nil => exact absurd chars (Number.digitChars_ne_nil k)
  | cons d ds =>
    rw [chars] at digits value
    obtain ⟨first, others⟩ := digits_cons.mp digits
    rw [Nat.ofDigitChars_cons, Nat.mul_zero, Nat.zero_add] at value
    have taken := takeExponent_ofDigitChars others (digitValue d) (value.trans_le bounded)
    rw [show Nat.ofDigitChars 10 ds (digitValue d) = k from value] at taken
    simp only [readExponentDigits, first, taken, if_true]
    exact finish_succeeds negative word within []

/-- A negative exponent is read, whatever it is.  One that is out of bounds makes the number zero.
-/
theorem readExponent_minus_succeeds (negative : Bool) (word : s < Nat.pow 2 64) {start : Int}
    (low : start ≤ 0) {ds : List Char} (digits : Digits ds) (some : ds ≠ []) :
    Succeeds (readExponent negative s start ('-' :: ds)) := by
  rw [readExponent_signed negative s start (.inr rfl)]
  cases ds with
  | nil => exact absurd rfl some
  | cons d ds =>
    obtain ⟨first, others⟩ := digits_cons.mp digits
    obtain ⟨within, exponent, left, -, all, took⟩ := takeExponent_digits others (digitValue d)
    have taken := took [] rfl
    rw [List.append_nil, List.append_nil] at taken
    have down : ('-' == '-') = true := rfl
    simp only [readExponentDigits, first, taken, down, if_true]
    cases within with
    | true => exact finish_succeeds negative word (word_within word (by omega)) left
    | false => exact ⟨(.real (.zero negative), _), if_neg (by simp)⟩

/-- Digits behind a point, if there are any. -/
def fractionText : List Char → List Char
  | [] => []
  | ds => '.' :: ds

/-- A digit, a fraction if there are more, and an exponent. -/
theorem read_scientific (negative : Bool) {d : Char} (first : isDigit d = true) (notZero : d ≠ '0')
    {fs : List Char} (digits : Digits fs) :
    ∃ s taken left, taken + left = fs.length ∧
      s * 10 ^ left ≤ Nat.ofDigitChars 10 fs (digitValue d) ∧ s < Nat.pow 2 64 ∧
      ∀ cs, read negative (d :: (fractionText fs ++ 'e' :: cs)) =
        readExponent negative s (-taken) cs := by
  have word : digitValue d < Nat.pow 2 64 := Nat.lt_trans (digitValue_lt first) (by decide)
  cases fs with
  | nil =>
    refine ⟨digitValue d, 0, 0, rfl, Nat.le_of_eq (Nat.mul_one _), word, fun cs => ?_⟩
    simp only [read, notZero, first, if_true, if_false]
    rfl
  | cons f fs =>
    obtain ⟨s, taken, left, count, most, keeps, reads⟩ :=
      readFraction_digits negative (digitValue d) 0 digits (List.cons_ne_nil f fs)
    refine ⟨s, taken, left, count, most, keeps word, fun cs => ?_⟩
    have tail := reads ('e' :: cs) rfl
    rw [Int.zero_sub] at tail
    simp only [read, fractionText, notZero, first, if_true, if_false]
    exact tail

end Numeral

/-! ## Decimals -/

namespace Decimal

open Numeral

variable {x : Decimal}

/-- A digit other than zero is worth something. -/
theorem digitValue_pos {c : Char} (digit : isDigit c = true) (notZero : c ≠ '0') :
    0 < digitValue c := by
  refine Nat.pos_of_ne_zero fun nothing => notZero (Char.toNat_inj.mp ?_)
  simp only [isDigit, Bool.and_eq_true, decide_eq_true_eq, Char.le_def,
    UInt32.le_iff_toNat_le] at digit
  have low : 48 ≤ c.toNat := digit.1
  have code : '0'.toNat = 48 := rfl
  unfold digitValue at nothing
  omega

theorem exists_digitChars {n : Nat} (some : n ≠ 0) :
    ∃ d ds, digitChars n = d :: ds ∧ d ≠ '0' ∧ isDigit d = true ∧ Digits ds := by
  cases chars : digitChars n with
  | nil => exact absurd chars (Number.digitChars_ne_nil n)
  | cons d ds =>
    have digits := digits_digitChars n
    rw [chars] at digits
    obtain ⟨first, others⟩ := digits_cons.mp digits
    refine ⟨d, ds, rfl, ?_, first, others⟩
    rintro rfl
    exact digitChars_head_ne_zero some ds chars

/-- A decimal without an exponent can be read.  Its digits may be more than a word has room for, but
they do not reach far enough in front of the point to be too many. -/
theorem plainText_succeeds (negative : Bool) (some : x.digits ≠ 0)
    (small : x.leadExponent < wordExponent) : Succeeds (read negative x.plainText) := by
  obtain ⟨d, ds, chars, notZero, first, others⟩ := exists_digitChars some
  have digits : Digits (d :: ds) := digits_cons.mpr ⟨first, others⟩
  rw [leadExponent, chars, List.length_cons] at small
  simp only [plainText, chars, List.length_cons]
  -- The point stands behind all digits, before all digits, or between them.
  split
  · have text : d :: ds ++ List.replicate x.exponent.toNat '0' ++ ['.', '0'] =
        (d :: ds ++ List.replicate x.exponent.toNat '0') ++ '.' :: ['0'] := rfl
    rw [text]
    refine read_plain_succeeds negative (digits.append (digits_zeros _)) (.inr ⟨d, _, rfl, notZero⟩)
      ?_ (digits_zeros 1) (List.cons_ne_nil _ _)
    simp only [List.length_append, List.length_cons, List.length_replicate]
    omega
  · split
    · exact read_plain_succeeds negative (digits_zeros 1) (.inl rfl) (by decide)
        ((digits_zeros _).append digits) (by simp)
    · rename_i long
      obtain ⟨k, whole⟩ : ∃ k, ds.length + 1 - (-x.exponent).toNat = k + 1 :=
        Nat.exists_eq_add_one_of_ne_zero (by omega)
      rw [whole]
      refine read_plain_succeeds negative (digits.take _) (.inr ⟨d, _, rfl, notZero⟩) ?_
        (digits.drop _) ?_
      · rw [List.length_take, List.length_cons]
        omega
      · rw [ne_eq, List.drop_eq_nil_iff, List.length_cons]
        omega

/-- Digits that are dropped do not carry a decimal past `readable`. -/
theorem shift_within (x : Decimal) (within : x.value ≤ readable) {s k : Nat}
    (le : s * 10 ^ k ≤ x.digits) : (s : ℚ) * 10 ^ ((k : Int) + x.exponent) ≤ readable := by
  have le : (s : ℚ) * 10 ^ k ≤ x.digits := by exact_mod_cast le
  calc (s : ℚ) * 10 ^ ((k : Int) + x.exponent) = s * 10 ^ k * 10 ^ x.exponent := by
        rw [zpow_add₀ (by norm_num), zpow_natCast, mul_assoc]
    _ ≤ x.digits * 10 ^ x.exponent := mul_le_mul_of_nonneg_right le (ten_zpow_pos _).le
    _ ≤ readable := within

/-- A decimal with an exponent can be read up to `readable`.  Digits that do not fit the word make
it smaller when they are dropped, so that what is scaled keeps within the bound too. -/
theorem scientificText_succeeds (negative : Bool) (some : x.digits ≠ 0)
    (within : x.value ≤ readable) : Succeeds (read negative x.scientificText) := by
  obtain ⟨d, ds, chars, notZero, first, others⟩ := exists_digitChars some
  obtain ⟨s, taken, left, count, most, word, reads⟩ := read_scientific negative first notZero others
  have worth : Nat.ofDigitChars 10 ds (digitValue d) = x.digits := by
    have value := ofDigitChars_digitChars x.digits
    rw [chars, Nat.ofDigitChars_cons, Nat.mul_zero, Nat.zero_add] at value
    exact value
  have lead : x.leadExponent = x.exponent + ds.length := by
    rw [leadExponent, chars, List.length_cons]
    omega
  have text : x.scientificText = d :: (fractionText ds ++
      'e' :: (if x.leadExponent < 0 then '-' else '+') :: digitChars x.leadExponent.natAbs) := by
    have parts : x.scientificText = (digitChars x.digits).take 1 ++
        fractionText ((digitChars x.digits).drop 1) ++
        ['e', if x.leadExponent < 0 then '-' else '+'] ++ digitChars x.leadExponent.natAbs := rfl
    rw [parts, chars]
    simp
  rw [text, reads]
  -- With a negative exponent nothing can become too large.
  obtain below | nonneg := Int.lt_or_le x.leadExponent 0
  · rw [if_pos below]
    exact readExponent_minus_succeeds negative word (by omega) (digits_digitChars _)
      (Number.digitChars_ne_nil _)
  · obtain ⟨k, is⟩ := Int.eq_ofNat_of_zero_le nonneg
    rw [if_neg (Int.not_lt.mpr nonneg), is, Int.natAbs_natCast]
    have shift : -(taken : Int) + k = left + x.exponent := by omega
    have whole : (k : Int) = ds.length + x.exponent := by omega
    refine readExponent_plus_succeeds negative word ?_ ?_
    · have least : 1 * 10 ^ ds.length ≤ x.digits := by
        rw [← worth]
        exact (Nat.mul_le_mul_right _ (digitValue_pos first notZero)).trans
          (mul_pow_le_ofDigitChars ds _)
      have power := x.shift_within within least
      rw [← whole, Nat.cast_one, one_mul, zpow_natCast] at power
      exact (le_maxPow10_of_within (by exact_mod_cast power)).trans (by decide)
    · rw [shift]
      exact x.shift_within within (worth ▸ most)

end Decimal

/-! ## Numbers -/

namespace Number

open Numeral

/-- The same as a rational. -/
theorem readable_eq : (readable : ℚ) = 36028797018963962 * 2 ^ (969 : Int) := by
  have exponent : ((Binary64.maxExponent.toNat - 2 : Nat) : Int) = 969 := rfl
  have whole : readable = 36028797018963962 * Nat.pow 2 (Binary64.maxExponent.toNat - 2) := by
    decide +kernel
  rw [whole, Nat.cast_mul, Nat.pow_eq, Nat.cast_pow, Nat.cast_ofNat, Nat.cast_ofNat,
    ← exponent, zpow_natCast]

/-- Every number but the greatest has its shortest decimal within `readable`.  The end of the
interval of the second greatest number is `readable` by definition, and the intervals lie in the
order of the numbers. -/
theorem shortest_within {x : Binary64} (canonical : x.Canonical)
    (less : ¬ (x.mantissa = Nat.pow 2 53 - 1 ∧ x.exponent = Binary64.maxExponent)) :
    (4 * x.mantissa + 2 : ℚ) * 2 ^ (x.exponent - 2) ≤ readable := by
  obtain ⟨fits, -, most, -⟩ := canonical
  have fits : x.mantissa < 9007199254740992 := fits
  have most : x.exponent ≤ 971 := most
  have less : ¬ (x.mantissa = 9007199254740991 ∧ x.exponent = 971) := less
  rw [readable_eq]
  -- Only at the greatest exponent does the mantissa matter, and there one value is left out.
  obtain top | low : x.exponent = 971 ∨ x.exponent ≤ 970 := by omega
  · have mantissa : 4 * x.mantissa + 2 ≤ 36028797018963962 := by omega
    have mantissa : (4 * x.mantissa + 2 : ℚ) ≤ 36028797018963962 := by exact_mod_cast mantissa
    rw [top]
    exact mul_le_mul_of_nonneg_right mantissa (Binary64.two_zpow_pos _).le
  · have mantissa : 4 * x.mantissa + 2 ≤ 36028797018963962 * 2 := by omega
    have mantissa : (4 * x.mantissa + 2 : ℚ) ≤ 36028797018963962 * 2 := by exact_mod_cast mantissa
    calc (4 * x.mantissa + 2 : ℚ) * 2 ^ (x.exponent - 2)
        ≤ 36028797018963962 * 2 * 2 ^ (968 : Int) := by
          gcongr
          · exact one_le_two
          · omega
      _ = 36028797018963962 * 2 ^ (969 : Int) := by
          rw [show (969 : Int) = 968 + 1 from rfl, zpow_add_one₀ two_ne_zero]
          ring

/-- The text of a binary64 number can be read without its sign. -/
theorem magnitude_succeeds {x : Binary64} (canonical : x.Canonical)
    (less : ¬ (x.mantissa = Nat.pow 2 53 - 1 ∧ x.exponent = Binary64.maxExponent)) :
    ∃ cs, Magnitude cs ∧ x.text = (if x.negative then '-' :: cs else cs) ∧
      Succeeds (Numeral.read x.negative cs) := by
  obtain zero | ⟨some, high⟩ := x.shortest_bounds
  · refine ⟨Decimal.plainText ⟨0, 0⟩, magnitude_plainText _, ?_, ?_⟩
    · rw [Binary64.text, zero]
      rfl
    · cases x.negative
      · exact ⟨_, rfl⟩
      · exact ⟨_, rfl⟩
  · refine ⟨_, ?_, rfl, ?_⟩
    · split
      · exact magnitude_plainText _
      · exact magnitude_scientificText _
    · split
      · rename_i plain
        rw [Bool.and_eq_true, decide_eq_true_eq, decide_eq_true_eq] at plain
        exact Decimal.plainText_succeeds _ some (plain.2.trans (by decide))
      · exact Decimal.scientificText_succeeds _ some (high.trans (shortest_within canonical less))

/-- A binary64 number can be read again.  For the greatest one this is computed, since its shortest
decimal lies past `readable`. -/
theorem reread_real_isSome {x : Binary64} (canonical : x.Canonical) :
    (real x).reread.isSome = true := by
  by_cases greatest : x.mantissa = Nat.pow 2 53 - 1 ∧ x.exponent = Binary64.maxExponent
  · obtain ⟨negative, mantissa, exponent⟩ := x
    obtain ⟨rfl, rfl⟩ := greatest
    have both : ∀ negative : Bool, (real ⟨negative, Nat.pow 2 53 - 1,
        Binary64.maxExponent⟩).reread.isSome = true := by decide +kernel
    exact both negative
  · obtain ⟨cs, form, text, ⟨m, rest⟩, read⟩ := magnitude_succeeds canonical greatest
    have scalar := readScalar_signed x.negative form []
    rw [List.append_nil, List.append_nil, ← text, read] at scalar
    rw [reread, Number.text, scalar]
    rfl

/-- **Every number can be read again.**  The reader may find another number than was written, but it
never finds the text to be at fault. -/
theorem reread_isSome {n : Number} (wellFormed : n.WellFormed) : n.reread.isSome = true := by
  cases n with
  | integer n => rw [reread_integer wellFormed, Option.isSome_some]
  | real x => exact reread_real_isSome wellFormed

end Number

namespace Json

/-- **Every value can be read again** that is not nested too deeply.  The value that is found may
differ in its numbers and in nothing else. -/
theorem parse_text_of_fits {v : Json} (fits : Fits maxNesting v) :
    ∃ w, v.reread = some w ∧ parse v.text = .ok w := by
  have numbers : v.reread ≠ none := by
    rw [Ne, reread_eq_none_iff]
    rintro ⟨n, there, missing⟩
    have found := Number.reread_isSome (wellFormed_numbers v fits.wellFormed n there)
    rw [missing] at found
    cases found
  obtain ⟨w, read⟩ := Option.ne_none_iff_exists'.mp numbers
  exact ⟨w, read, eq_ok_of_toOption ((parse_text fits.wellFormed fits.shallow).trans read)⟩

end Json

end Decipher
