import Decipher.Text.Blank
import Decipher.Text.Word
import Mathlib.Data.List.TakeWhile

/-!
# Numbers between blanks

A word is read from what is left of a text without the blanks at its ends.  Here it is told
without reading which texts write which numbers.

* `Spells`: digits, with or without a plus sign in front, and the number that they write.
* `WritesNumber`: a number that stands between blanks.
* `word?_trimChars`: a word is read just where a number is written that is one.

The reader takes blanks off both ends, then a sign, and then asks whether everything that is left
is a digit.  The descriptions go the other way: they put a text together from its parts.  What
makes both the same is that no digit and no sign is a blank (`Spells.shown`), so that there is one
way to cut the text.
-/

namespace Decipher

variable {cs before middle after : List Char} {n : Nat}

/-! ## Blanks -/

/-- Blanks are dropped up to the first character that shows. -/
theorem dropWhile_isBlank (blank : ∀ c ∈ before, isBlank c = true) {c : Char}
    (shown : isBlank c = false) (rest : List Char) :
    (before ++ c :: rest).dropWhile isBlank = c :: rest := by
  rw [List.dropWhile_append_of_pos blank, List.dropWhile_cons_of_neg (by simp [shown])]

/-- What stands between blanks is left.  It must not start or end in a blank itself, and here it has
none at all. -/
theorem trimChars_eq (blank : ∀ c ∈ before, isBlank c = true)
    (blank' : ∀ c ∈ after, isBlank c = true) (some : middle ≠ [])
    (shown : ∀ c ∈ middle, isBlank c = false) :
    trimChars (before ++ middle ++ after) = middle := by
  have left : (before ++ middle ++ after).dropWhile isBlank = middle ++ after := by
    obtain ⟨c, rest, rfl⟩ := List.exists_cons_of_ne_nil some
    rw [List.append_assoc, List.cons_append]
    exact dropWhile_isBlank blank (shown c List.mem_cons_self) _
  have right : (middle ++ after).reverse.dropWhile isBlank = middle.reverse := by
    have blank' : ∀ c ∈ after.reverse, isBlank c = true :=
      fun c there => blank' c (List.mem_reverse.mp there)
    have shown : ∀ c ∈ middle.reverse, isBlank c = false :=
      fun c there => shown c (List.mem_reverse.mp there)
    obtain ⟨c, rest, same⟩ := List.exists_cons_of_ne_nil (mt List.reverse_eq_nil_iff.mp some)
    rw [List.reverse_append, same]
    exact dropWhile_isBlank blank' (shown c (same ▸ List.mem_cons_self)) rest
  rw [trimChars, left, right, List.reverse_reverse]

/-- What is taken away is blank, and it stood at the two ends.  This goes for every text, also for
one that is all blanks. -/
theorem exists_trimChars (cs : List Char) :
    ∃ before after, cs = before ++ trimChars cs ++ after ∧
      (∀ c ∈ before, isBlank c = true) ∧ ∀ c ∈ after, isBlank c = true := by
  refine ⟨cs.takeWhile isBlank, ((cs.dropWhile isBlank).reverse.takeWhile isBlank).reverse, ?_,
    fun c there => List.mem_takeWhile_imp there,
    fun c there => List.mem_takeWhile_imp (List.mem_reverse.mp there)⟩
  rw [trimChars, List.append_assoc, ← List.reverse_append, List.takeWhile_append_dropWhile,
    List.reverse_reverse, List.takeWhile_append_dropWhile]

/-! ## Digits -/

/-- That characters are a number in decimal digits. -/
def SpellsDigits (digits : List Char) (n : Nat) : Prop :=
  digits ≠ [] ∧ (∀ c ∈ digits, c.isDigit = true) ∧ Nat.ofDigitChars 10 digits 0 = n

/-- That characters are a number in decimal digits, with or without a plus sign in front.  A minus
sign is none of it, not even in front of a zero. -/
def Spells (cs : List Char) (n : Nat) : Prop :=
  ∃ digits, (cs = digits ∨ cs = '+' :: digits) ∧ SpellsDigits digits n

/-- A digit shows. -/
theorem isBlank_digit {c : Char} (digit : c.isDigit = true) : isBlank c = false := by
  have range : 48 ≤ c.toNat ∧ c.toNat ≤ 57 := by
    simpa [Char.isDigit, UInt32.le_iff_toNat_le] using digit
  simp only [isBlank, Bool.or_eq_false_iff, Bool.and_eq_false_iff, decide_eq_false_iff_not,
    beq_eq_false_iff_ne]
  omega

theorem Spells.ne_nil (spells : Spells cs n) : cs ≠ [] := by
  obtain ⟨digits, rfl | rfl, some, -⟩ := spells
  · exact some
  · exact List.cons_ne_nil _ _

/-- Nothing in a number is a blank, so that what stands between blanks can be told. -/
theorem Spells.shown (spells : Spells cs n) : ∀ c ∈ cs, isBlank c = false := by
  obtain ⟨digits, form, -, all, -⟩ := spells
  have shown : ∀ c ∈ digits, isBlank c = false := fun c there => isBlank_digit (all c there)
  obtain rfl | rfl := form
  · exact shown
  · exact List.forall_mem_cons.mpr ⟨by decide, shown⟩

/-- What the digits are worth, in the words of the library. -/
theorem foldl_digits (digits : List Char) :
    digits.foldl (fun value c => value * 10 + (c.toNat - 48)) 0 = Nat.ofDigitChars 10 digits 0 := by
  simp only [Nat.ofDigitChars, Nat.mul_comm 10]
  rfl

/-- Behind a sign there are digits only. -/
theorem spells_plus : Spells ('+' :: cs) n ↔ SpellsDigits cs n := by
  constructor
  · rintro ⟨digits, rfl | same, spells⟩
    · exact absurd (spells.2.1 '+' List.mem_cons_self) (by decide)
    · cases same
      exact spells
  · exact fun spells => ⟨cs, .inr rfl, spells⟩

/-- Without a sign there are digits only. -/
theorem spells_of_no_plus (noPlus : ∀ rest, cs ≠ '+' :: rest) :
    Spells cs n ↔ SpellsDigits cs n := by
  constructor
  · rintro ⟨digits, rfl | same, spells⟩
    · exact spells
    · exact absurd same (noPlus digits)
  · exact fun spells => ⟨cs, .inl rfl, spells⟩

/-- What is read once a sign is taken off. -/
theorem readDigits_eq_some {digits : List Char} :
    (if digits.isEmpty || !digits.all Char.isDigit then none
      else
        let value := digits.foldl (fun value c => value * 10 + (c.toNat - 48)) 0
        if value < wordLimit then some value else none) = some n ↔
      SpellsDigits digits n ∧ n < wordLimit := by
  simp only [foldl_digits]
  split
  · rename_i bad
    refine ⟨nofun, ?_⟩
    rintro ⟨⟨some, all, -⟩, -⟩
    simp [some, List.all_eq_true.mpr all] at bad
  · rename_i fine
    obtain ⟨some, all⟩ : digits ≠ [] ∧ ∀ c ∈ digits, c.isDigit = true := by simpa using fine
    split
    · rename_i lt
      constructor
      · rintro ⟨⟩
        exact ⟨⟨some, all, rfl⟩, lt⟩
      · rintro ⟨⟨-, -, rfl⟩, -⟩
        rfl
    · rename_i notLt
      refine ⟨nofun, ?_⟩
      rintro ⟨⟨-, -, rfl⟩, lt⟩
      exact absurd lt notLt

/-- A word is read where a number is written that is small enough, and from nothing else. -/
theorem word?_eq_some : word? cs = some n ↔ Spells cs n ∧ n < wordLimit := by
  unfold word?
  split
  · rw [spells_plus]
    exact readDigits_eq_some
  · rename_i noPlus
    rw [spells_of_no_plus noPlus]
    exact readDigits_eq_some

/-! ## Numbers -/

/-- That a text writes a number between blanks.  The number may be any natural; whether it fits a
word is another question. -/
def WritesNumber (cs : List Char) (n : Nat) : Prop :=
  ∃ before middle after, cs = before ++ middle ++ after ∧
    (∀ c ∈ before, isBlank c = true) ∧ (∀ c ∈ after, isBlank c = true) ∧ Spells middle n

/-- **A word is read just where a number is written that is one.**  A text with anything else in it
is read as nothing, and so is one that is blank. -/
theorem word?_trimChars :
    word? (trimChars cs) = some n ↔ WritesNumber cs n ∧ n < wordLimit := by
  rw [word?_eq_some]
  refine and_congr_left' ⟨fun spells => ?_, ?_⟩
  · obtain ⟨before, after, same, blank, blank'⟩ := exists_trimChars cs
    exact ⟨before, _, after, same, blank, blank', spells⟩
  · rintro ⟨before, middle, after, rfl, blank, blank', spells⟩
    rw [trimChars_eq blank blank' spells.ne_nil spells.shown]
    exact spells

end Decipher
