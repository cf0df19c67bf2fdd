import Decipher.Json.Reader
import Decipher.Proofs.Binary64.Rounding

/-!
# What is read is well formed

The reader of values gives nothing but well-formed values: members are sorted by their keys,
integers have 64 bits, binary64 numbers are canonical.  It gives no value that is nested more
deeply than it was told.  Everything that is written by this library was read by it before, or
was made of such values, so that this is where the assumptions come from that reading back what is
written needs.

* `Finds`: what a reading comes to has a property.  It is the form of all lemmas here, for a reader
  is made of smaller readers, and what they find goes through `Finds.map` and `finds_closed`.
* `Numeral.read_wellFormed`: numbers.  There is one lemma for each part of a number, in the order
  in which the parts are read, and each is used by the one before it.
* `Json.sorted_insertMember`: members are sorted by insertion and not by the text, which may have
  them in any order and more than once.
* `Json.Fits`: a value is well formed and no deeper than a bound; parts of it fit a lower one.
* `Json.readValue_fits`: values.  `Json.fits_of_parse` is the same for a whole text.

## Depth and order

Both are needed, and neither follows from the other parts.  The reader of a text with deeply
nested brackets gives up at `maxNesting`, and a value that is deeper would be written but could not
be read again.  Members that are not sorted would be written in their order and come back in
another.
-/

namespace Decipher

/-- Whatever a reading comes to has a property.  A reading that fails comes to nothing, so that a
lemma about a reader has nothing to show where the reader gives up. -/
def Finds {α : Type} (P : α → Prop) (reading : Reading α) : Prop :=
  ∀ x rest, reading = .ok (x, rest) → P x

theorem finds_error {α : Type} {P : α → Prop} (fault : Fault) :
    Finds P (.error fault : Reading α) := nofun

theorem finds_ok {α : Type} {P : α → Prop} {x : α} (here : P x) (rest : List Char) :
    Finds P (.ok (x, rest)) := by
  intro y rest' same
  cases same
  exact here

/-- Taking the closing bracket changes nothing, for it comes after what was found. -/
theorem finds_closed {α : Type} {P : α → Prop} {x : α} (here : P x)
    (closed : Except Fault (List Char)) : Finds P (closed.map fun rest => (x, rest)) := by
  cases closed with
  | error fault => exact finds_error fault
  | ok rest => exact finds_ok here rest

/-- What is made of a value that was found has what the making keeps. -/
theorem Finds.map {α β : Type} {P : α → Prop} {Q : β → Prop} {reading : Reading α}
    (finds : Finds P reading) {f : α → β} (keeps : ∀ x, P x → Q (f x)) :
    Finds Q (reading.map fun (x, rest) => (f x, rest)) := by
  cases reading with
  | error fault => exact finds_error fault
  | ok found => exact finds_ok (keeps _ (finds _ _ rfl)) _

namespace Numeral

open Binary64

/-! ## Numbers -/

/-- Each round divides by a power of ten, and a quotient is rounded.  Where the division would fail
the reader goes on with zero, which is canonical too. -/
theorem shrink_canonical (times : Nat) {x : Binary64} (canonical : x.Canonical) :
    (shrink times x).Canonical := by
  induction times generalizing x with
  | zero => exact canonical
  | succ times ih =>
    rw [shrink]
    split
    · exact canonical
    · refine ih ?_
      cases quotient : x.div (.pow10 maxPow10) with
      | none => exact zero_canonical false
      | some y => exact div_canonical quotient

/-- **A number with an exponent is canonical.**  It comes from an integer by a product or a
quotient, which are rounded, and by a sign, which does not show in the size. -/
theorem scale_canonical {negative : Bool} {significand : Nat} {exponent : Int} {x : Binary64}
    (scaled : scale negative significand exponent = some x) : x.Canonical := by
  have canonical := ofNat_canonical false significand
  -- Zero stays zero.  Else there is a product, which may be too large, or a row of quotients.
  unfold scale at scaled
  extract_lets whole signed magnitude times small at scaled
  split at scaled
  · cases scaled
    exact canonical
  · split at scaled
    · split at scaled
      · obtain ⟨y, product, rfl⟩ := Option.map_eq_some_iff.mp scaled
        exact (mul_canonical product).signed negative
      · cases scaled
    · have shrunk := shrink_canonical times canonical
      split at scaled
      · cases scaled
        exact shrunk
      · obtain ⟨y, quotient, rfl⟩ := Option.map_eq_some_iff.mp scaled
        exact (div_canonical quotient).signed negative

theorem finds_real {x : Binary64} (canonical : x.Canonical) (rest : List Char) :
    Finds Number.WellFormed (.ok (.real x, rest)) :=
  finds_ok (P := Number.WellFormed) (x := .real x) canonical rest

theorem finds_integer {n : Int} (word : Number.inRange n = true) (rest : List Char) :
    Finds Number.WellFormed (.ok (.integer n, rest)) :=
  finds_ok (P := Number.WellFormed) (x := .integer n) word rest

/-- A number that is too large is refused here, so that no infinity is ever read. -/
theorem finish_wellFormed (negative : Bool) (significand : Nat) (exponent : Int)
    (rest : List Char) :
    Finds Number.WellFormed (finish negative significand exponent rest) := by
  unfold finish
  split
  · rename_i scaled
    exact finds_real (scale_canonical scaled) rest
  · exact finds_error _

/-- An exponent that is too large for an integer is not an error if it is negative or if all digits
are zero.  The number is zero then, with the sign that was read. -/
theorem readExponent_wellFormed (negative : Bool) (significand : Nat) (start : Int)
    (cs : List Char) :
    Finds Number.WellFormed (readExponent negative significand start cs) := by
  unfold readExponent
  split
  split
  · exact finds_error _
  · split
    · split
      · exact finish_wellFormed _ _ _ _
      · split
        · exact finds_error _
        · exact finds_real (zero_canonical negative) _
    · exact finds_error _

/-- What ends a number is an exponent, or nothing of it. -/
theorem readTail_wellFormed (negative : Bool) (significand : Nat) (exponent : Int)
    (cs : List Char) :
    Finds Number.WellFormed (readTail negative significand exponent cs) := by
  unfold readTail
  split
  · exact readExponent_wellFormed _ _ _ _
  · exact readExponent_wellFormed _ _ _ _
  · exact finish_wellFormed _ _ _ _

/-- Behind the point there may be more digits than the significand has room for.  They are passed
over, and nothing about the number depends on how many. -/
theorem readFraction_wellFormed (negative : Bool) (significand : Nat) (exponent : Int)
    (cs : List Char) :
    Finds Number.WellFormed (readFraction negative significand exponent cs) := by
  unfold readFraction
  split
  split
  · exact readTail_wellFormed _ _ _ _
  · split
    · split
      · exact finds_error _
      · exact finds_error _
    · exact readTail_wellFormed _ _ _ _

/-- The significand takes a digit only as long as it stays in 64 bits, which is what makes a number
without point and exponent an integer of 64 bits. -/
theorem takeSignificand_lt {significand : Nat} (word : significand < Nat.pow 2 64) (taken : Nat)
    (cs : List Char) : (takeSignificand significand taken cs).1 < Nat.pow 2 64 := by
  induction cs generalizing significand taken with
  | nil => exact word
  | cons c cs ih =>
    rw [takeSignificand]
    split
    · rename_i fits
      exact ih (of_decide_eq_true (Bool.and_eq_true_iff.mp fits).2) _
    · exact word

/-- **A number without point and exponent** is an integer if it has 64 bits, signed or unsigned.
What is too small for that, as `-0` also is, is read as a binary64 number. -/
theorem readWhole_wellFormed (negative : Bool) {significand : Nat}
    (word : significand < Nat.pow 2 64) (cs : List Char) :
    Finds Number.WellFormed (readWhole negative significand cs) := by
  have bound : significand < 18446744073709551616 := word
  -- By what follows the digits: a point, an exponent in either letter, or neither.
  unfold readWhole
  split
  · exact readFraction_wellFormed _ _ _ _
  · exact readExponent_wellFormed _ _ _ _
  · exact readExponent_wellFormed _ _ _ _
  · split
    · refine finds_integer ?_ _
      simp only [Number.inRange, Bool.and_eq_true, decide_eq_true_eq]
      omega
    · split
      · exact finds_real (ofNat_canonical true significand) _
      · rename_i signed small
        -- The least integer has no positive counterpart, so that the bound is the signed one.
        have bound' : ¬ 9223372036854775808 < significand := fun large => small (.inr large)
        refine finds_integer ?_ _
        simp only [Number.inRange, Bool.and_eq_true, decide_eq_true_eq]
        omega

/-- A number with more digits than the significand holds is always a binary64 number. -/
theorem readLong_wellFormed (negative : Bool) (significand dropped : Nat) (cs : List Char) :
    Finds Number.WellFormed (readLong negative significand dropped cs) := by
  unfold readLong
  split
  · exact readFraction_wellFormed _ _ _ _
  · exact readTail_wellFormed _ _ _ _

theorem digitValue_lt {c : Char} (digit : isDigit c = true) : digitValue c < 10 := by
  simp only [isDigit, Bool.and_eq_true, decide_eq_true_eq, Char.le_def,
    UInt32.le_iff_toNat_le] at digit
  have high : c.toNat ≤ 57 := digit.2
  unfold digitValue
  omega

/-- **Numbers are well formed**, with the sign that stands before them. -/
theorem read_wellFormed (negative : Bool) (cs : List Char) :
    Finds Number.WellFormed (read negative cs) := by
  unfold read
  split
  · exact finds_error _
  · rename_i c rest
    split
    · split
      · exact finds_error _
      · exact readWhole_wellFormed negative (by decide) _
    · split
      · rename_i digit
        have first : digitValue c < Nat.pow 2 64 :=
          Nat.lt_trans (digitValue_lt digit) (by decide)
        -- A digit is only taken if the significand stays within the word.
        have word := takeSignificand_lt first 0 rest
        split
        rename_i taken
        rw [taken] at word
        split
        · exact readLong_wellFormed negative _ _ _
        · exact readWhole_wellFormed negative word _
      · exact finds_error _

end Numeral

namespace Json

/-! ## Elements -/

section Loops

variable {α : Type} {P : α → Prop} {item value : List Char → Reading α}

/-- All elements have what each element has.  The induction is on the fuel, of which there is as
much as there are characters, so that running out is not a case that occurs; here it counts as a
failure, of which there is nothing to say. -/
theorem readItems_finds (finds : ∀ cs, Finds P (item cs)) (fuel : List Char) (first : Bool)
    (cs : List Char) : Finds (fun xs => ∀ x ∈ xs, P x) (readItems item fuel first cs) := by
  induction fuel generalizing first cs with
  | nil => exact finds_error _
  | cons mark fuel ih =>
    unfold readItems
    split
    · exact finds_error _
    · exact finds_ok nofun _
    · split
      · exact finds_error _
      · rename_i found
        split
        · exact finds_error _
        · rename_i foundAll
          refine finds_ok ?_ _
          intro y there
          obtain rfl | there := List.mem_cons.mp there
          · exact finds _ _ _ found
          · exact ih _ _ _ _ foundAll y there

theorem readArray_finds (finds : ∀ cs, Finds P (item cs)) (cs : List Char) :
    Finds (fun xs => ∀ x ∈ xs, P x) (readArray item cs) := by
  unfold readArray
  split
  · exact finds_error _
  · rename_i read
    exact finds_closed (P := fun xs => ∀ x ∈ xs, P x)
      (readItems_finds finds cs true cs _ _ read) _

/-- All values of members have what each value has.  Of the keys nothing is said, and they stand in
the order in which they were read. -/
theorem readMembers_finds (finds : ∀ cs, Finds P (value cs)) (fuel : List Char) (first : Bool)
    (cs : List Char) :
    Finds (fun ms => ∀ m ∈ ms, P m.2) (readMembers value fuel first cs) := by
  induction fuel generalizing first cs with
  | nil => exact finds_error _
  | cons mark fuel ih =>
    unfold readMembers
    split
    · exact finds_error _
    · exact finds_ok nofun _
    · split
      · exact finds_error _
      · split
        · exact finds_error _
        · rename_i found
          split
          · exact finds_error _
          · rename_i foundAll
            refine finds_ok ?_ _
            intro m there
            obtain rfl | there := List.mem_cons.mp there
            · exact finds _ _ _ found
            · exact ih _ _ _ _ foundAll m there

theorem readObject_finds (finds : ∀ cs, Finds P (value cs)) (cs : List Char) :
    Finds (fun ms => ∀ m ∈ ms, P m.2) (readObject value cs) := by
  unfold readObject
  split
  · exact finds_error _
  · rename_i read
    exact finds_closed (P := fun ms : List (String × α) => ∀ m ∈ ms, P m.2)
      (readMembers_finds finds cs true cs _ _ read) _

end Loops

/-! ## Members in order -/

/-- A member that is inserted adds nothing but itself.  It may take the place of another. -/
theorem mem_insertMember {key : String} {v : Json} {ms : List (String × Json)}
    {m : String × Json} (there : m ∈ insertMember key v ms) : m = (key, v) ∨ m ∈ ms := by
  induction ms with
  | nil => exact .inl (List.mem_singleton.mp there)
  | cons n ms ih =>
    rw [insertMember] at there
    split at there
    · exact List.mem_cons.mp there
    · split at there
      · obtain same | other := List.mem_cons.mp there
        · exact .inl same
        · exact .inr (List.mem_cons_of_mem n other)
      · obtain same | other := List.mem_cons.mp there
        · exact .inr (List.mem_cons.mpr (.inl same))
        · exact (ih other).imp_right (List.mem_cons_of_mem n)

/-- The first member comes before all others, not only before the second.  This is what an induction
can use. -/
theorem sorted_cons {m : String × Json} {ms : List (String × Json)} :
    Sorted (m :: ms) ↔ (∀ n ∈ ms, m.1 < n.1) ∧ Sorted ms := by
  simp [Sorted, List.pairwise_cons]

/-- **Members stay sorted** when one is inserted.  If its key is there already, the value under it
is replaced, and the keys are the same as before. -/
theorem sorted_insertMember (key : String) (v : Json) {ms : List (String × Json)}
    (sorted : Sorted ms) : Sorted (insertMember key v ms) := by
  induction ms with
  | nil => exact List.pairwise_singleton _ _
  | cons n ms ih =>
    obtain ⟨first, others⟩ := sorted_cons.mp sorted
    rw [insertMember]
    split
    · rename_i before
      refine sorted_cons.mpr ⟨fun m there => ?_, sorted⟩
      obtain rfl | there := List.mem_cons.mp there
      · exact before
      · exact String.lt_trans before (first m there)
    · rename_i notBefore
      split
      · rename_i same
        subst same
        exact sorted_cons.mpr ⟨first, others⟩
      · rename_i different
        -- The key belongs further behind, and all that comes to stand there is after this one.
        have after : n.1 < key :=
          Std.lt_of_le_of_ne (String.not_lt.mp notBefore) (Ne.symm different)
        refine sorted_cons.mpr ⟨fun m there => ?_, ih others⟩
        obtain rfl | there := mem_insertMember there
        · exact after
        · exact first m there

/-! ## Values -/

/-- That a value is well formed and that at most so many brackets are open at once in it. -/
structure Fits (nesting : Nat) (v : Json) : Prop where
  wellFormed : v.WellFormed
  shallow : v.depth ≤ nesting

/-- The recursion over elements says the same of each of them. -/
theorem wellFormedItems_iff {xs : List Json} :
    WellFormedItems xs ↔ ∀ x ∈ xs, x.WellFormed := by
  induction xs with
  | nil => simp [WellFormedItems]
  | cons x xs ih => simp [WellFormedItems, ih]

theorem wellFormedMembers_iff {ms : List (String × Json)} :
    WellFormedMembers ms ↔ ∀ m ∈ ms, m.2.WellFormed := by
  induction ms with
  | nil => simp [WellFormedMembers]
  | cons m ms ih => simp [WellFormedMembers, ih]

theorem depthItems_le_iff {xs : List Json} {nesting : Nat} :
    depthItems xs ≤ nesting ↔ ∀ x ∈ xs, x.depth ≤ nesting := by
  induction xs with
  | nil => simp [depthItems]
  | cons x xs ih => simp [depthItems, ih]

theorem depthMembers_le_iff {ms : List (String × Json)} {nesting : Nat} :
    depthMembers ms ≤ nesting ↔ ∀ m ∈ ms, m.2.depth ≤ nesting := by
  induction ms with
  | nil => simp [depthMembers]
  | cons m ms ih => simp [depthMembers, ih]

/-- An array fits if its elements fit with one bracket less. -/
theorem fits_array {nesting : Nat} {xs : List Json} :
    Fits (nesting + 1) (array xs) ↔ ∀ x ∈ xs, Fits nesting x := by
  constructor
  · intro fits x there
    exact ⟨wellFormedItems_iff.mp fits.wellFormed x there,
      depthItems_le_iff.mp (Nat.le_of_succ_le_succ fits.shallow) x there⟩
  · intro fits
    exact ⟨wellFormedItems_iff.mpr fun x there => (fits x there).wellFormed,
      Nat.succ_le_succ (depthItems_le_iff.mpr fun x there => (fits x there).shallow)⟩

/-- An object fits if its values do with one bracket less, and if its members are sorted. -/
theorem fits_object {nesting : Nat} {ms : List (String × Json)} :
    Fits (nesting + 1) (object ms) ↔ Sorted ms ∧ ∀ m ∈ ms, Fits nesting m.2 := by
  constructor
  · intro fits
    refine ⟨fits.wellFormed.1, fun m there => ?_⟩
    exact ⟨wellFormedMembers_iff.mp fits.wellFormed.2 m there,
      depthMembers_le_iff.mp (Nat.le_of_succ_le_succ fits.shallow) m there⟩
  · rintro ⟨sorted, fits⟩
    exact ⟨⟨sorted, wellFormedMembers_iff.mpr fun m there => (fits m there).wellFormed⟩,
      Nat.succ_le_succ (depthMembers_le_iff.mpr fun m there => (fits m there).shallow)⟩

/-- **An object made of members fits**, in whatever order they were read and even if keys occur more
than once.  The induction is on the members that are left, for any members that were inserted
before. -/
theorem fits_ofMembers {nesting : Nat} {ms : List (String × Json)}
    (fits : ∀ m ∈ ms, Fits nesting m.2) : Fits (nesting + 1) (ofMembers ms) := by
  -- What is in the accumulator was inserted and is sorted; what is left need not be.
  have fold (ms acc : List (String × Json)) (fits : ∀ m ∈ ms, Fits nesting m.2)
      (sorted : Sorted acc) (fits' : ∀ m ∈ acc, Fits nesting m.2) :
      Fits (nesting + 1) (object (ms.foldl (fun acc m => insertMember m.1 m.2 acc) acc)) := by
    induction ms generalizing acc with
    | nil => exact fits_object.mpr ⟨sorted, fits'⟩
    | cons m ms ih =>
      refine ih _ (fun n there => fits n (List.mem_cons_of_mem m there))
        (sorted_insertMember m.1 m.2 sorted) fun n there => ?_
      obtain rfl | there := mem_insertMember there
      · exact fits m List.mem_cons_self
      · exact fits' n there
  exact fold ms [] fits List.Pairwise.nil nofun

/-- A value without brackets fits anywhere. -/
theorem fits_flat (nesting : Nat) {v : Json} (wellFormed : v.WellFormed) (flat : v.depth = 0) :
    Fits nesting v :=
  ⟨wellFormed, flat ▸ Nat.zero_le nesting⟩

theorem fits_null (nesting : Nat) : Fits nesting null := fits_flat nesting trivial rfl

theorem fits_bool (nesting : Nat) (b : Bool) : Fits nesting (bool b) :=
  fits_flat nesting trivial rfl

theorem fits_string (nesting : Nat) (s : String) : Fits nesting (string s) :=
  fits_flat nesting trivial rfl

/-- A scalar opens no bracket, so that it fits at any depth, also where no bracket may be opened any
more. -/
theorem readScalar_fits (nesting : Nat) (cs : List Char) :
    Finds (Fits nesting) (readScalar cs) := by
  have number (negative : Bool) (cs : List Char) :
      Finds (Fits nesting)
        ((Numeral.read negative cs).map fun found => (Json.number found.1, found.2)) :=
    (Numeral.read_wellFormed negative cs).map fun n wellFormed => fits_flat nesting wellFormed rfl
  have anyString (cs : List Char) : Finds (fun _ => True) (readQuoted cs) := fun _ _ _ => trivial
  unfold readScalar
  split
  · exact finds_error _
  split
  · exact finds_closed (fits_null nesting) _
  split
  · exact finds_closed (fits_bool nesting true) _
  split
  · exact finds_closed (fits_bool nesting false) _
  split
  · exact number true _
  split
  · exact number false _
  split
  · exact (anyString _).map fun s _ => fits_string nesting s
  · exact finds_error _

/-- **What is read is well formed**, and no deeper than it may be.  The induction is on the brackets
that may still be opened: none of them are left at zero, where the reader refuses arrays and
objects, and one is spent for what is inside. -/
theorem readValue_fits (nesting : Nat) (cs : List Char) :
    Finds (Fits nesting) (readValue nesting cs) := by
  induction nesting generalizing cs with
  | zero =>
    unfold readValue
    split
    · exact finds_error _
    · exact finds_error _
    · exact readScalar_fits 0 _
  | succ nesting ih =>
    unfold readValue
    split
    · exact (readArray_finds ih _).map fun xs fits => fits_array.mpr fits
    · exact (readObject_finds ih _).map fun ms fits => fits_ofMembers fits
    · exact readScalar_fits (nesting + 1) _

/-- A text that is read as a whole gives a value that fits the bound of the reader.  What follows
the value can only make the reading fail. -/
theorem fits_of_parse {text : String} {v : Json} (parsed : parse text = .ok v) :
    Fits maxNesting v := by
  unfold parse parseChars readWholeText at parsed
  cases read : readValue maxNesting text.toList with
  | error fault =>
    rw [read] at parsed
    cases parsed
  | ok found =>
    have fits := readValue_fits maxNesting text.toList found.1 found.2 read
    rw [read] at parsed
    obtain ⟨w, rest⟩ := found
    dsimp only at parsed
    split at parsed
    · cases parsed
      exact fits
    · cases parsed

/-! ## Parts of values -/

theorem Fits.mono {nesting nesting' : Nat} {v : Json} (fits : Fits nesting v)
    (le : nesting ≤ nesting') : Fits nesting' v :=
  ⟨fits.wellFormed, Nat.le_trans fits.shallow le⟩

/-- An element is inside one bracket of its array. -/
theorem Fits.item {nesting : Nat} {v x : Json} {items : List Json} (fits : Fits nesting v)
    (array : v.asArray? = some items) (there : x ∈ items) : Fits (nesting - 1) x := by
  cases v with
  | array xs =>
    cases array
    cases nesting with
    | zero => exact absurd fits.shallow (Nat.not_succ_le_zero _)
    | succ nesting => exact fits_array.mp fits x there
  | _ => cases array

theorem mem_of_lookup {key : String} {v : Json} {ms : List (String × Json)}
    (found : lookup key ms = some v) : (key, v) ∈ ms := by
  induction ms with
  | nil => cases found
  | cons m ms ih =>
    rw [lookup] at found
    split at found
    · rename_i same
      cases found
      exact List.mem_cons.mpr (.inl (by rw [← same]))
    · exact List.mem_cons_of_mem m (ih found)

/-- What is found under a key is inside one bracket of its object.  If nothing is found the reader's
`null` stands for it, which fits as well. -/
theorem Fits.get {nesting : Nat} {v : Json} (fits : Fits nesting v) (key : String) :
    Fits (nesting - 1) (v.get key) := by
  cases v with
  | object ms =>
    cases nesting with
    | zero => exact absurd fits.shallow (Nat.not_succ_le_zero _)
    | succ nesting =>
      cases found : lookup key ms with
      | none =>
        have absent : (object ms).get key = null := by rw [Json.get, get?, found]; rfl
        rw [absent]
        exact fits_null _
      | some w =>
        have present : (object ms).get key = w := by rw [Json.get, get?, found]; rfl
        rw [present]
        exact (fits_object.mp fits).2 _ (mem_of_lookup found)
  | _ => exact fits_null _

/-- Following keys goes one bracket deeper for each of them. -/
theorem Fits.path {nesting : Nat} {v : Json} (fits : Fits nesting v) (keys : List String) :
    Fits (nesting - keys.length) (v.path keys) := by
  induction keys generalizing nesting v with
  | nil => exact fits
  | cons key keys ih =>
    rw [path_cons, List.length_cons, Nat.add_comm, ← Nat.sub_sub]
    exact ih (fits.get key)

end Json

end Decipher
