import Decipher.Json.Reader
import Decipher.Proofs.Results
import Mathlib.Algebra.Group.Nat.Defs
import Mathlib.Data.Option.Basic

/-!
# Numbers read back

A number is written as text and read again.  An integer comes back as it was.  A binary64
number comes back as `Number.reread` says, which need not be the number that was written,
and need not be a number at all.

* `ReadsWhole`: a reader takes exactly a given text, whatever follows it.
* `Number.text_form`: the text of a number is made of a sign, digits, a fraction and an exponent.
* `readScalar_text`: so a number reads within a text as it does alone.
* `Number.reread_integer`: integers of 64 bits come back.

## What is shown of readers

A number stands in front of a comma, a bracket or the end of a text, and the reader has to stop
there.  `ReadsWhole` says of a reader that it takes a given text to its end and that what it finds
does not depend on what follows.  It is shown for the parts of a number from the last to the first,
each with what may follow it: the end, the exponent, the fraction, the digits in front.  In all
these lemmas the result is left open, since what a number is read as is the business of
`Number.reread`; only for integers it is computed.

The texts of numbers are described by their parts (`Exponent`, `Fraction`, `Number.Magnitude`), and
not by the printer.  There are two forms of a decimal and one of an integer, and all of them are
magnitudes.
-/

namespace Decipher

/-- A text that goes on behind a value in an array or an object, or is over.  A number has no mark
at its end, so that its reader has to be told by what comes next. -/
def Stops : List Char → Prop
  | [] => True
  | c :: _ => c = ',' ∨ c = ']' ∨ c = '}'

/-- A reader takes a text and nothing of what follows, with one result for all that may follow.  No
result means that it finds a fault.  The place of the fault does depend on what follows, and is left
out. -/
def ReadsWhole {α : Type} (read : List Char → Reading α) (text : List Char)
    (result : Option α) : Prop :=
  ∀ rest, Stops rest → (read (text ++ rest)).toOption = result.map fun x => (x, rest)

/-- What a number is when it is read from its own text.  For an integer of 64 bits this is the
number itself; for a binary64 number it may be another one. -/
def Number.reread (n : Number) : Option Number :=
  match Json.readScalar n.text with
  | .ok (.number m, _) => some m
  | _ => none

namespace Numeral

/-! ## Digits -/

theorem ne_of_isDigit {c d : Char} (digit : isDigit c = true) (other : isDigit d = false) :
    c ≠ d := by
  rintro rfl
  rw [digit] at other
  cases other

/-- A text of digits. -/
def Digits (cs : List Char) : Prop := ∀ c ∈ cs, isDigit c = true

theorem digits_nil : Digits [] := by
  intro c there
  cases there

theorem digits_cons {c : Char} {cs : List Char} :
    Digits (c :: cs) ↔ isDigit c = true ∧ Digits cs := by
  simp [Digits]

theorem Digits.append {cs ds : List Char} (left : Digits cs) (right : Digits ds) :
    Digits (cs ++ ds) := by
  intro c there
  obtain inLeft | inRight := List.mem_append.mp there
  · exact left c inLeft
  · exact right c inRight

theorem Digits.take {cs : List Char} (digits : Digits cs) (count : Nat) :
    Digits (cs.take count) := fun c there => digits c (List.mem_of_mem_take there)

theorem Digits.drop {cs : List Char} (digits : Digits cs) (count : Nat) :
    Digits (cs.drop count) := fun c there => digits c (List.mem_of_mem_drop there)

theorem digits_zeros (count : Nat) : Digits (List.replicate count '0') := by
  intro c there
  rw [List.eq_of_mem_replicate there]
  rfl

theorem digits_digitChars (n : Nat) : Digits (Decimal.digitChars n) := by
  intro c there
  rw [Decimal.digitChars, Nat.toList_repr] at there
  have digit := Nat.isDigit_of_mem_toDigits (by decide) (by decide) there
  simpa [isDigit, Char.isDigit, Char.le_def] using digit

theorem startsWithDigit_of_stops {rest : List Char} (stops : Stops rest) :
    startsWithDigit rest = false := by
  cases rest with
  | nil => rfl
  | cons c rest => obtain rfl | rfl | rfl := stops <;> rfl

/-- Digits behind a start are worth what the start is with zeros in their place, or more. -/
theorem mul_pow_le_ofDigitChars (ds : List Char) (start : Nat) :
    start * 10 ^ ds.length ≤ Nat.ofDigitChars 10 ds start := by
  induction ds generalizing start with
  | nil => exact Nat.le_of_eq (Nat.mul_one start)
  | cons d ds ih =>
    rw [Nat.ofDigitChars_cons, List.length_cons, Nat.pow_succ, Nat.mul_comm (10 ^ _),
      ← Nat.mul_assoc, Nat.mul_comm start]
    exact Nat.le_trans (Nat.mul_le_mul_right _ (Nat.le_add_right _ _)) (ih _)

/-- Digits are taken into a significand up to some point, with more digits behind it.  With zeros in
their place it is no more than all the digits are worth.  Where the point is does not depend on what
follows the digits. -/
theorem takeSignificand_digits {ds : List Char} (digits : Digits ds) (significand taken : Nat) :
    ∃ significand' taken' left, Digits left ∧ taken' + left.length = taken + ds.length ∧
      significand' * 10 ^ left.length ≤ Nat.ofDigitChars 10 ds significand ∧
      ∀ rest, startsWithDigit rest = false →
        takeSignificand significand taken (ds ++ rest) = (significand', taken', left ++ rest) := by
  induction ds generalizing significand taken with
  | nil =>
    refine ⟨significand, taken, [], digits_nil, rfl, Nat.le_of_eq (Nat.mul_one _),
      fun rest noDigit => ?_⟩
    cases rest with
    | nil => rfl
    | cons c rest =>
      have other : isDigit c = false := noDigit
      simp [takeSignificand, other]
  | cons d ds ih =>
    obtain ⟨first, others⟩ := digits_cons.mp digits
    -- Once a digit does not fit into the word none is taken any more, though a smaller one might
    -- fit.
    by_cases fits : significand * 10 + digitValue d < Nat.pow 2 64
    · obtain ⟨s, k, left, more, count, most, taken'⟩ :=
        ih others (significand * 10 + digitValue d) (taken + 1)
      refine ⟨s, k, left, more, ?_, ?_, fun rest noDigit => ?_⟩
      · rw [count, List.length_cons, Nat.add_assoc, Nat.add_comm 1]
      · rw [Nat.ofDigitChars_cons, Nat.mul_comm 10]
        exact most
      · simp [takeSignificand, first, fits, taken' rest noDigit]
    · refine ⟨significand, taken, d :: ds, digits, rfl, mul_pow_le_ofDigitChars _ _,
        fun rest _ => ?_⟩
      simp only [List.cons_append, takeSignificand, decide_eq_false fits, Bool.and_false]
      rfl

/-- Digits that are dropped are counted, up to their end. -/
theorem dropDigits_digits {ds : List Char} (digits : Digits ds) (count : Nat)
    {rest : List Char} (noDigit : startsWithDigit rest = false) :
    dropDigits count (ds ++ rest) = (count + ds.length, rest) := by
  induction ds generalizing count with
  | nil =>
    cases rest with
    | nil => rfl
    | cons c rest =>
      have other : isDigit c = false := noDigit
      simp [dropDigits, other]
  | cons d ds ih =>
    obtain ⟨first, others⟩ := digits_cons.mp digits
    simp [dropDigits, first, ih others, Nat.add_left_comm, Nat.add_comm]

/-- Digits are taken into an exponent up to some point; that is their end if the exponent stays
within bounds.  If it does not, the digits that are left are dropped by the reader, whatever the
number is. -/
theorem takeExponent_digits {ds : List Char} (digits : Digits ds) (exponent : Nat) :
    ∃ within exponent' left, Digits left ∧ (within = true → left = []) ∧
      ∀ rest, startsWithDigit rest = false →
        takeExponent exponent (ds ++ rest) = (within, exponent', left ++ rest) := by
  induction ds generalizing exponent with
  | nil =>
    refine ⟨true, exponent, [], digits_nil, fun _ => rfl, fun rest noDigit => ?_⟩
    cases rest with
    | nil => rfl
    | cons c rest =>
      have other : isDigit c = false := noDigit
      simp [takeExponent, other]
  | cons d ds ih =>
    obtain ⟨first, others⟩ := digits_cons.mp digits
    by_cases past : maxExponent < exponent * 10 + digitValue d
    · refine ⟨false, exponent * 10 + digitValue d, ds, others, nofun, fun rest _ => ?_⟩
      simp [takeExponent, first, past]
    · obtain ⟨within, e, left, more, all, taken⟩ := ih others (exponent * 10 + digitValue d)
      refine ⟨within, e, left, more, all, fun rest noDigit => ?_⟩
      simp [takeExponent, first, past, taken rest noDigit]

/-! ## Parts of a number -/

/-- An exponent with its letter and sign, or nothing.  The writer leaves the sign out nowhere,
though the reader could do without. -/
inductive Exponent : List Char → Prop
  | absent : Exponent []
  | present {sign : Char} {ds : List Char} (signed : sign = '+' ∨ sign = '-')
      (digits : Digits ds) : Exponent ('e' :: sign :: ds)

/-- A fraction with its point, or nothing. -/
inductive Fraction : List Char → Prop
  | absent : Fraction []
  | present {ds : List Char} (digits : Digits ds) : Fraction ('.' :: ds)

/-- At its end a number is finite or there is a fault, and neither depends on what follows. -/
theorem readsWhole_finish (negative : Bool) (significand : Nat) (exponent : Int) :
    ∃ result, ReadsWhole (finish negative significand exponent) [] result := by
  refine ⟨(scale negative significand exponent).map .real, fun rest _ => ?_⟩
  unfold finish
  cases scale negative significand exponent with
  | none => rfl
  | some x => rfl

/-- What follows the sign of an exponent.  The sign itself says only in which direction the exponent
counts. -/
def readExponentDigits (negative down : Bool) (significand : Nat) (start : Int) :
    List Char → Reading Number
  | [] => .error (.here .endInValue [])
  | c :: rest =>
    if isDigit c then
      match takeExponent (digitValue c) rest with
      | (true, exponent, rest) =>
        finish negative significand (if down then start - exponent else start + exponent) rest
      | (false, _, rest) =>
        if significand ≠ 0 ∧ !down then .error (.here .numberOutOfRange rest)
        else .ok (.real (.zero negative), (dropDigits 0 rest).2)
    else .error (.next .invalidNumber (c :: rest))

/-- A written exponent has a sign always. -/
theorem readExponent_signed (negative : Bool) (significand : Nat) (start : Int) {sign : Char}
    (signed : sign = '+' ∨ sign = '-') (cs : List Char) :
    readExponent negative significand start (sign :: cs) =
      readExponentDigits negative (sign == '-') significand start cs := by
  obtain rfl | rfl := signed <;> rfl

/-- An exponent is read to its end, also if it is out of bounds.  The number is zero or too large
then, and the rest of the digits is dropped. -/
theorem readsWhole_readExponentDigits (negative down : Bool) (significand : Nat) (start : Int)
    {ds : List Char} (digits : Digits ds) :
    ∃ result, ReadsWhole (readExponentDigits negative down significand start) ds result := by
  cases ds with
  | nil =>
    refine ⟨none, fun rest stops => ?_⟩
    cases rest with
    | nil => rfl
    | cons c rest => obtain rfl | rfl | rfl := stops <;> rfl
  | cons d ds =>
    obtain ⟨first, others⟩ := digits_cons.mp digits
    obtain ⟨within, exponent, left, more, all, taken⟩ := takeExponent_digits others (digitValue d)
    cases within with
    | true =>
      cases all rfl
      obtain ⟨result, whole⟩ := readsWhole_finish negative significand
        (if down then start - exponent else start + exponent)
      refine ⟨result, fun rest stops => ?_⟩
      simp only [List.cons_append, readExponentDigits, first, if_true,
        taken rest (startsWithDigit_of_stops stops)]
      exact whole rest stops
    | false =>
      -- An exponent that is out of bounds makes a number infinite or zero, and its other digits are
      -- dropped.
      refine ⟨if significand ≠ 0 ∧ !down then none else some (.real (.zero negative)),
        fun rest stops => ?_⟩
      have noDigit := startsWithDigit_of_stops stops
      simp only [List.cons_append, readExponentDigits, first, if_true, taken rest noDigit,
        dropDigits_digits more 0 noDigit]
      split <;> rfl

theorem readsWhole_readExponent (negative : Bool) (significand : Nat) (start : Int)
    {sign : Char} (signed : sign = '+' ∨ sign = '-') {ds : List Char} (digits : Digits ds) :
    ∃ result, ReadsWhole (readExponent negative significand start) (sign :: ds) result := by
  obtain ⟨result, whole⟩ :=
    readsWhole_readExponentDigits negative (sign == '-') significand start digits
  refine ⟨result, fun rest stops => ?_⟩
  rw [List.cons_append, readExponent_signed negative significand start signed]
  exact whole rest stops

/-- Neither an exponent nor what may follow a number goes on with a digit. -/
theorem Exponent.startsWithDigit_append {cs : List Char} (form : Exponent cs) {rest : List Char}
    (stops : Stops rest) : startsWithDigit (cs ++ rest) = false := by
  cases form with
  | absent => exact startsWithDigit_of_stops stops
  | present => rfl

/-- An exponent, or none, is read to its end. -/
theorem readsWhole_readTail (negative : Bool) (significand : Nat) (exponent : Int)
    {cs : List Char} (form : Exponent cs) :
    ∃ result, ReadsWhole (readTail negative significand exponent) cs result := by
  cases form with
  | absent =>
    obtain ⟨result, whole⟩ := readsWhole_finish negative significand exponent
    refine ⟨result, fun rest stops => ?_⟩
    rw [← whole rest stops]
    cases rest with
    | nil => rfl
    | cons c rest => obtain rfl | rfl | rfl := stops <;> rfl
  | present signed digits =>
    exact readsWhole_readExponent negative significand exponent signed digits

theorem startsWithDigit_of_digits {ds : List Char} (digits : Digits ds) (more : ds ≠ [])
    (rest : List Char) : startsWithDigit (ds ++ rest) = true := by
  cases ds with
  | nil => exact absurd rfl more
  | cons d ds => exact (digits_cons.mp digits).1

/-- The digits behind a point are read to their end, and so is what follows them. -/
theorem readsWhole_readFraction (negative : Bool) (significand : Nat) (exponent : Int)
    {ds : List Char} (digits : Digits ds) {cs : List Char} (form : Exponent cs) :
    ∃ result, ReadsWhole (readFraction negative significand exponent) (ds ++ cs) result := by
  obtain ⟨significand', taken, left, more, -, -, took⟩ :=
    takeSignificand_digits digits significand 0
  obtain ⟨result, whole⟩ := readsWhole_readTail negative significand' (exponent - taken) form
  by_cases long : left = []
  · subst long
    refine ⟨if taken = 0 then none else result, fun rest stops => ?_⟩
    have noDigit := form.startsWithDigit_append stops
    simp only [List.append_assoc, readFraction, took _ noDigit, List.nil_append, noDigit]
    by_cases missing : taken = 0
    · simp only [missing, Bool.false_eq_true, if_false, if_true]
      split <;> rfl
    · simp only [missing, Bool.false_eq_true, if_false]
      exact whole rest stops
  · refine ⟨result, fun rest stops => ?_⟩
    have noDigit := form.startsWithDigit_append stops
    simp only [List.append_assoc, readFraction, took _ noDigit,
      startsWithDigit_of_digits more long, dropDigits_digits more 0 noDigit, if_true]
    exact whole rest stops

/-- What follows the digits of a long number is read to its end. -/
theorem readsWhole_readLong (negative : Bool) (significand dropped : Nat)
    {fraction : List Char} (form : Fraction fraction) {cs : List Char} (tail : Exponent cs) :
    ∃ result, ReadsWhole (readLong negative significand dropped) (fraction ++ cs) result := by
  cases form with
  | absent =>
    obtain ⟨result, whole⟩ := readsWhole_readTail negative significand dropped tail
    refine ⟨result, fun rest stops => ?_⟩
    rw [← whole rest stops]
    cases tail with
    | absent =>
      cases rest with
      | nil => rfl
      | cons c rest => obtain rfl | rfl | rfl := stops <;> rfl
    | present => rfl
  | present digits => exact readsWhole_readFraction negative significand dropped digits tail

/-- What a whole part of a 64-bit word is as a number.  A negative one that no signed word can hold
becomes a real, and so does minus zero, since integers have no such number. -/
def wholeNumber (negative : Bool) (significand : Nat) : Number :=
  if !negative then .integer significand
  else if significand = 0 ∨ Nat.pow 2 63 < significand then .real (.ofNat true significand)
  else .integer (-significand)

/-- A whole part with nothing behind it is a number by itself. -/
theorem readWhole_of_stops (negative : Bool) (significand : Nat) {rest : List Char}
    (stops : Stops rest) :
    readWhole negative significand rest = .ok (wholeNumber negative significand, rest) := by
  have plain : readWhole negative significand rest =
      if !negative then .ok (.integer significand, rest)
      else if significand = 0 ∨ Nat.pow 2 63 < significand then
        .ok (.real (.ofNat true significand), rest)
      else .ok (.integer (-significand), rest) := by
    cases rest with
    | nil => rfl
    | cons c rest => obtain rfl | rfl | rfl := stops <;> rfl
  rw [plain, wholeNumber]
  split
  · rfl
  · split <;> rfl

/-- A whole part is read to the end of what follows it. -/
theorem readsWhole_readWhole (negative : Bool) (significand : Nat)
    {fraction : List Char} (form : Fraction fraction) {cs : List Char} (tail : Exponent cs) :
    ∃ result, ReadsWhole (readWhole negative significand) (fraction ++ cs) result := by
  cases form with
  | absent =>
    cases tail with
    | absent =>
      refine ⟨some (wholeNumber negative significand), fun rest stops => ?_⟩
      rw [List.nil_append, List.nil_append, readWhole_of_stops negative significand stops]
      rfl
    | present signed digits => exact readsWhole_readExponent negative significand 0 signed digits
  | present digits => exact readsWhole_readFraction negative significand 0 digits tail

/-- A fraction, or what comes in its stead, does not go on with a digit. -/
theorem Fraction.startsWithDigit_append {fraction : List Char} (form : Fraction fraction)
    {cs : List Char} (tail : Exponent cs) {rest : List Char} (stops : Stops rest) :
    startsWithDigit (fraction ++ (cs ++ rest)) = false := by
  cases form with
  | absent => exact tail.startsWithDigit_append stops
  | present => rfl

/-- Without a digit there is no number.  A text that starts like one and fails here has a fault,
then, and is not read in another way. -/
theorem read_of_no_digit (negative : Bool) {cs : List Char}
    (noDigit : startsWithDigit cs = false) : (read negative cs).toOption = none := by
  cases cs with
  | nil => rfl
  | cons c cs =>
    have other : isDigit c = false := noDigit
    have notZero : c ≠ '0' := (ne_of_isDigit rfl other).symm
    simp only [read, notZero, other, Bool.false_eq_true, if_false]
    rfl

/-- **A number behind its sign is read to its end.**  By the first digit, which must not be a zero
with others behind it, and by how many digits the significand has room for. -/
theorem readsWhole_read (negative : Bool) {ds : List Char} (digits : Digits ds)
    {fraction : List Char} (form : Fraction fraction) {cs : List Char} (tail : Exponent cs) :
    ∃ result, ReadsWhole (read negative) (ds ++ (fraction ++ cs)) result := by
  have noDigit {rest : List Char} (stops : Stops rest) := form.startsWithDigit_append tail stops
  -- A zero stands alone; digits are kept as long as they fit a word, and counted after that.
  cases ds with
  | nil =>
    refine ⟨none, fun rest stops => ?_⟩
    rw [List.nil_append, List.append_assoc]
    exact read_of_no_digit negative (noDigit stops)
  | cons d ds =>
    obtain ⟨first, others⟩ := digits_cons.mp digits
    by_cases zero : d = '0'
    · by_cases more : ds = []
      · subst zero more
        obtain ⟨result, whole⟩ := readsWhole_readWhole negative 0 form tail
        refine ⟨result, fun rest stops => ?_⟩
        rw [← whole rest stops, List.append_assoc]
        simp only [List.cons_append, List.nil_append, List.append_assoc, read, noDigit stops,
          Bool.false_eq_true, if_false, if_true]
      · refine ⟨none, fun rest _ => ?_⟩
        simp only [List.cons_append, List.append_assoc, read, zero,
          startsWithDigit_of_digits others more, if_true]
        rfl
    · obtain ⟨significand, taken, left, more, -, -, took⟩ :=
        takeSignificand_digits others (digitValue d) 0
      by_cases long : left = []
      · subst long
        obtain ⟨result, whole⟩ := readsWhole_readWhole negative significand form tail
        refine ⟨result, fun rest stops => ?_⟩
        rw [← whole rest stops]
        simp only [List.cons_append, List.append_assoc, List.nil_append, read, zero, first,
          took _ (noDigit stops), noDigit stops, Bool.false_eq_true, if_false, if_true]
      · obtain ⟨result, whole⟩ := readsWhole_readLong negative significand left.length form tail
        refine ⟨result, fun rest stops => ?_⟩
        rw [← whole rest stops]
        simp only [List.cons_append, List.append_assoc, read, zero, first,
          took _ (noDigit stops), startsWithDigit_of_digits more long,
          dropDigits_digits more 0 (noDigit stops), Nat.zero_add, if_false, if_true]

end Numeral

/-! ## The text of a number -/

namespace Number

open Numeral

/-- What the text of a number consists of behind its sign. -/
def Magnitude (cs : List Char) : Prop :=
  ∃ ds fraction exponent, ds ≠ [] ∧ Digits ds ∧ Fraction fraction ∧ Exponent exponent ∧
    cs = ds ++ (fraction ++ exponent)

theorem digitChars_ne_nil (n : Nat) : Decimal.digitChars n ≠ [] := by
  rw [Decimal.digitChars, Nat.toList_repr]
  exact Nat.toDigits_ne_nil

theorem magnitude_digitChars (n : Nat) : Magnitude (Decimal.digitChars n) :=
  ⟨_, [], [], digitChars_ne_nil n, digits_digitChars n, .absent, .absent, (List.append_nil _).symm⟩

/-- A decimal without an exponent has a fraction always, and zeros where its digits do not reach. -/
theorem magnitude_plainText (x : Decimal) : Magnitude x.plainText := by
  have digits := digits_digitChars x.digits
  have nonempty := digitChars_ne_nil x.digits
  unfold Decimal.plainText
  extract_lets ds places
  split
  · exact ⟨ds ++ List.replicate x.exponent.toNat '0', ['.', '0'], [], by simp [ds, nonempty],
      digits.append (digits_zeros _), .present (digits_zeros 1), .absent, by simp⟩
  · split
    · exact ⟨['0'], '.' :: (List.replicate (places - ds.length) '0' ++ ds), [], by simp,
        digits_zeros 1, .present ((digits_zeros _).append digits), .absent, by simp⟩
    · rename_i short
      refine ⟨ds.take (ds.length - places), '.' :: ds.drop (ds.length - places), [], ?_,
        digits.take _, .present (digits.drop _), .absent, by simp⟩
      intro empty
      have := congrArg List.length empty
      simp at this
      omega

/-- A decimal with an exponent has one digit in front of the point. -/
theorem magnitude_scientificText (x : Decimal) : Magnitude x.scientificText := by
  have digits := digits_digitChars x.digits
  have nonempty := digitChars_ne_nil x.digits
  unfold Decimal.scientificText
  extract_lets ds exponent fraction
  have form : Fraction fraction := by
    unfold fraction
    split
    · exact .absent
    · exact .present (digits.drop 1)
  have sign : (if exponent < 0 then '-' else '+') = '+' ∨
      (if exponent < 0 then '-' else '+') = '-' := by
    split
    · exact .inr rfl
    · exact .inl rfl
  exact ⟨ds.take 1, fraction, _, by simp [ds, nonempty], digits.take 1, form,
    .present sign (digits_digitChars exponent.natAbs), by simp⟩

/-- The text of a number is a magnitude, perhaps behind a minus. -/
theorem text_form (n : Number) :
    ∃ (negative : Bool) (cs : List Char),
      Magnitude cs ∧ n.text = if negative then '-' :: cs else cs := by
  cases n with
  | integer n =>
    refine ⟨decide (n < 0), Decimal.digitChars n.natAbs, magnitude_digitChars n.natAbs, ?_⟩
    simp [text, integerText]
  | real x =>
    refine ⟨x.negative, _, ?_, rfl⟩
    split
    · exact magnitude_plainText _
    · exact magnitude_scientificText _

/-- A number that is read starts like one. -/
theorem readScalar_magnitude {cs : List Char} (form : Magnitude cs) (rest : List Char) :
    Json.readScalar (cs ++ rest) =
      (Numeral.read false (cs ++ rest)).map fun (n, rest) => (.number n, rest) := by
  obtain ⟨ds, fraction, exponent, nonempty, digits, -, -, rfl⟩ := form
  cases ds with
  | nil => exact absurd rfl nonempty
  | cons d ds =>
    have digit := (digits_cons.mp digits).1
    have other {c : Char} := ne_of_isDigit (d := c) digit
    simp only [List.cons_append, Json.readScalar, digit, @other 'n' rfl, @other 't' rfl,
      @other 'f' rfl, @other '-' rfl, if_true, if_false]

/-- What follows a sign is read with the sign. -/
theorem readScalar_signed (negative : Bool) {cs : List Char} (form : Magnitude cs)
    (rest : List Char) :
    Json.readScalar ((if negative then '-' :: cs else cs) ++ rest) =
      (Numeral.read negative (cs ++ rest)).map fun (n, rest) => (.number n, rest) := by
  cases negative with
  | true => rfl
  | false => exact readScalar_magnitude form rest

/-- The text of a number is read to its end. -/
theorem readsWhole_readScalar (n : Number) :
    ∃ result : Option Number, ReadsWhole Json.readScalar n.text (result.map .number) := by
  obtain ⟨negative, cs, form, text⟩ := n.text_form
  have here := readScalar_signed negative form
  obtain ⟨ds, fraction, exponent, -, digits, frac, exp, rfl⟩ := form
  obtain ⟨result, whole⟩ := readsWhole_read negative digits frac exp
  refine ⟨result, fun rest stops => ?_⟩
  rw [text, here, toOption_map, whole rest stops]
  cases result <;> rfl

/-- **A number reads within a text as it does alone.**  So what it is when it is read again can be
said of the number, without regard to where it stands. -/
theorem readScalar_text (n : Number) :
    ReadsWhole Json.readScalar n.text (n.reread.map .number) := by
  obtain ⟨result, whole⟩ := n.readsWhole_readScalar
  -- Reading again is reading with nothing behind, which is one of the cases.
  have alone : n.reread = result := by
    have here := whole [] trivial
    rw [List.append_nil] at here
    unfold reread
    cases read : Json.readScalar n.text with
    | error fault =>
      rw [read] at here
      cases result with
      | none => rfl
      | some m => cases here
    | ok found =>
      rw [read] at here
      cases result with
      | none => cases here
      | some m =>
        cases here
        rfl
  rw [alone]
  exact whole

end Number

/-! ## Integers -/

namespace Numeral

/-- The first digit of a natural is not zero, but for that of zero.  With a zero in front it would
be refused. -/
theorem digitChars_head_ne_zero {n : Nat} (positive : n ≠ 0) (ds : List Char) :
    Decimal.digitChars n ≠ '0' :: ds := by
  rw [Decimal.digitChars, Nat.toList_repr]
  induction n using Nat.strongRecOn generalizing ds with
  | ind n ih =>
    by_cases small : n < 10
    · rw [Nat.toDigits_of_lt_base small]
      intro same
      have code := congrArg Char.toNat (List.cons.inj same).1
      rw [Nat.toNat_digitChar_of_lt_ten small] at code
      exact positive (Nat.add_left_cancel code)
    · rw [Nat.toDigits_of_base_le (by decide) (Nat.le_of_not_lt small)]
      cases lead : Nat.toDigits 10 (n / 10) with
      | nil => exact absurd lead Nat.toDigits_ne_nil
      | cons d rest =>
        intro same
        have first : d = '0' := (List.cons.inj same).1
        subst first
        exact ih (n / 10) (by omega) (by omega) rest lead

/-- The digits of a natural are worth it. -/
theorem ofDigitChars_digitChars (n : Nat) : Nat.ofDigitChars 10 (Decimal.digitChars n) 0 = n := by
  rw [Decimal.digitChars, Nat.toList_repr]
  exact Nat.ofDigitChars_toDigits (by decide) (by decide)

theorem le_ofDigitChars (ds : List Char) (start : Nat) : start ≤ Nat.ofDigitChars 10 ds start :=
  Nat.le_trans (Nat.le_mul_of_pos_right start (Nat.pow_pos (by decide)))
    (mul_pow_le_ofDigitChars ds start)

/-- Digits that fit a word are taken to their end. -/
theorem takeSignificand_ofDigitChars {ds : List Char} (digits : Digits ds)
    (significand taken : Nat) (fits : Nat.ofDigitChars 10 ds significand < Nat.pow 2 64) :
    takeSignificand significand taken ds =
      (Nat.ofDigitChars 10 ds significand, taken + ds.length, []) := by
  induction ds generalizing significand taken with
  | nil => rfl
  | cons d ds ih =>
    obtain ⟨first, others⟩ := digits_cons.mp digits
    rw [Nat.ofDigitChars_cons, Nat.mul_comm] at fits
    have small : significand * 10 + digitValue d < Nat.pow 2 64 :=
      Nat.lt_of_le_of_lt (le_ofDigitChars ds _) fits
    have rest := ih others (significand * 10 + digitValue d) (taken + 1) fits
    simp only [takeSignificand, first, decide_eq_true small, Bool.and_self, if_true, rest,
      Nat.ofDigitChars_cons, Nat.mul_comm 10, List.length_cons, Nat.add_assoc, Nat.add_comm 1]
    rfl

/-- The digits of a natural are read as a whole part. -/
theorem read_digitChars (negative : Bool) {n : Nat} (fits : n < Nat.pow 2 64) :
    read negative (Decimal.digitChars n) = .ok (wholeNumber negative n, []) := by
  by_cases zero : n = 0
  · subst zero
    exact readWhole_of_stops negative 0 (show Stops [] from trivial)
  · have digits := digits_digitChars n
    have value := ofDigitChars_digitChars n
    have lead := digitChars_head_ne_zero zero
    cases chars : Decimal.digitChars n with
    | nil => exact absurd chars (Number.digitChars_ne_nil n)
    | cons d ds =>
      rw [chars] at digits value lead
      obtain ⟨first, others⟩ := digits_cons.mp digits
      have notZero : d ≠ '0' := fun same => lead ds (same ▸ rfl)
      rw [Nat.ofDigitChars_cons, Nat.mul_zero, Nat.zero_add] at value
      have taken := takeSignificand_ofDigitChars others (digitValue d) 0 (value ▸ fits)
      rw [show Nat.ofDigitChars 10 ds (digitValue d) = n from value] at taken
      simp only [read, notZero, first, taken, startsWithDigit, if_true, if_false,
        Bool.false_eq_true]
      exact readWhole_of_stops negative n (show Stops [] from trivial)

end Numeral

/-- **Integers of 64 bits come back**, with or without a sign.  Their digits fit a word, and a
number without point and exponent is not scaled. -/
theorem Number.reread_integer {n : Int} (word : inRange n = true) :
    (integer n).reread = some (integer n) := by
  simp only [inRange, Bool.and_eq_true, decide_eq_true_eq] at word
  have fits : n.natAbs < Nat.pow 2 64 := by
    show n.natAbs < 18446744073709551616
    omega
  unfold reread
  -- Naturals are read as words, and a minus sign turns the word over, if it is no more than 2 ^ 63.
  by_cases negative : n < 0
  · have whole : Numeral.wholeNumber true n.natAbs = integer n := by
      have notZero : n.natAbs ≠ 0 := by omega
      have small : ¬ Nat.pow 2 63 < n.natAbs := by
        show ¬ 9223372036854775808 < n.natAbs
        omega
      simp only [Numeral.wholeNumber, Bool.not_true, Bool.false_eq_true, notZero, small, or_self,
        if_false]
      congr 1
      omega
    have here : Json.readScalar (integer n).text =
        (Numeral.read true (Decimal.digitChars n.natAbs)).map
          fun (m, rest) => (.number m, rest) := by
      simp only [text, integerText, negative, if_true]
      rfl
    rw [here, Numeral.read_digitChars true fits, whole]
    rfl
  · have whole : Numeral.wholeNumber false n.natAbs = integer n := by
      simp only [Numeral.wholeNumber, Bool.not_false, if_true]
      congr 1
      omega
    have here := readScalar_magnitude (magnitude_digitChars n.natAbs) []
    rw [List.append_nil] at here
    simp only [text, integerText, negative, if_false]
    rw [here, Numeral.read_digitChars false fits, whole]
    rfl

end Decipher
