import Decipher.Proofs.Json.Numeral

/-!
# Values read back

What is written in the compact form is read again.  Strings come back as they were, and
arrays and objects come back if what is in them does; only numbers can change
(`Json.reread`).  The members of an object come back in their order because that is the order
of their keys, and a value comes back only if it is not nested more deeply than the reader
allows.

* `readQuoted_writeBody`: strings.
* `readArray_write`, `readObject_write`: arrays and objects, over what reads their elements.
* `readValue_write`: values.

* `parse_text`: values that stand alone.
* `reread_eq_none_iff`, `reread_eq_self_iff`: which values do not come back, and which come back as
  they were.

## How a text is followed

A value is written in front of what follows it, and read from a text that goes on.  So the lemmas
have the rest of the text as a parameter (`Reads`), and a value within a value is one with another
rest.  All that has to be known of the rest is that the reader stops there (`Stops`), which matters
for numbers only.

Readers of lists go by fuel, one mark for each element.  The fuel is the text itself, and the text
is longer than the list it writes (`length_lt_writeItems`, `length_lt_writeMembers`), so that it
never runs out; the same holds of strings.

What is compared is `toOption` of the reading.  A reading may fail at a number, and then the whole
fails, at a place that depends on the text.
-/

namespace Decipher

namespace Json

/-! ## Strings -/

/-- A hexadecimal digit is read as what it was written for. -/
theorem hexValue?_hexDigit : ∀ n < 16, hexValue? (hexDigit n) = some n := by decide

theorem utf8Size_hexDigit : ∀ n < 16, (hexDigit n).utf8Size = 1 := by decide

/-- Four digits write a control character, and the first two are zero. -/
theorem readHex_control {n : Nat} (small : n < 32) (rest : List Char) :
    readHex ('0' :: '0' :: hexDigit (n / 16) :: hexDigit (n % 16) :: rest) = .ok (n, rest) := by
  have high := Nat.div_lt_of_lt_mul (show n < 16 * 16 by omega)
  have low := Nat.mod_lt n (show 16 > 0 by decide)
  have zero : hexValue? '0' = some 0 := rfl
  have bytes : byteCount ['0', '0', hexDigit (n / 16), hexDigit (n % 16)] = 4 := by
    simp only [byteCount_cons, byteCount_nil, utf8Size_hexDigit _ high, utf8Size_hexDigit _ low]
    rfl
  simp only [readHex, List.take_succ_cons, List.take_zero, bytes, Nat.lt_irrefl, if_false, zero,
    hexValue?_hexDigit _ high, hexValue?_hexDigit _ low]
  congr 2
  omega

theorem readCode_control {c : Char} (small : c.toNat < 32) (rest : List Char) :
    readCode ('0' :: '0' :: hexDigit (c.toNat / 16) :: hexDigit (c.toNat % 16) :: rest) =
      .ok (c, rest) := by
  have noTrail : isTrailSurrogate c.toNat = false := by
    simp [isTrailSurrogate]
    omega
  have noLead : isLeadSurrogate c.toNat = false := by
    simp [isLeadSurrogate]
    omega
  simp only [readCode, readHex_control small, noTrail, noLead, Bool.false_eq_true, if_false,
    Char.ofNat_toNat]

/-- A character is read as it was before it was escaped.  By the characters that have an escape of
their own, those that are written in digits, and the others. -/
theorem readBody_escape (c mark : Char) (fuel rest : List Char) :
    readBody (mark :: fuel) (escape c ++ rest) =
      match readBody fuel rest with
      | .error fault => .error fault
      | .ok (ds, rest) => .ok (c :: ds, rest) := by
  unfold escape
  split
  · subst c
    rfl
  split
  · subst c
    rfl
  split
  · subst c
    rfl
  split
  · subst c
    rfl
  split
  · subst c
    rfl
  split
  · subst c
    rfl
  split
  · subst c
    rfl
  -- What is left are control characters, which are written by their codes, and all that stand for
  -- themselves.
  rename_i quote backslash _ _ _ _ _
  split
  · rename_i control
    have unescaped : readEscape ('u' :: '0' :: '0' :: hexDigit (c.toNat / 16) ::
        hexDigit (c.toNat % 16) :: rest) = .ok (c, rest) := readCode_control control rest
    simp only [List.cons_append, List.nil_append, readBody, unescaped]
    rfl
  · rename_i shown
    cases tail : readBody fuel rest <;>
      simp only [List.cons_append, List.nil_append, readBody, quote, backslash, shown, tail,
        if_false]

/-- The characters of a string come back one by one, up to the quotes. -/
theorem readBody_writeBody (cs rest : List Char) {fuel : List Char}
    (enough : cs.length < fuel.length) :
    readBody fuel (writeBody cs rest) = .ok (cs, rest) := by
  induction cs generalizing fuel with
  | nil =>
    cases fuel with
    | nil => cases enough
    | cons mark fuel => rfl
  | cons c cs ih =>
    cases fuel with
    | nil => cases enough
    | cons mark fuel =>
      rw [writeBody, readBody_escape, ih (Nat.lt_of_succ_lt_succ enough)]

/-- What is written of a string is longer than the string, so that there is enough fuel to read it.
-/
theorem length_lt_writeBody (cs rest : List Char) :
    cs.length + rest.length < (writeBody cs rest).length := by
  induction cs with
  | nil => simp [writeBody]
  | cons c cs ih =>
    have escaped : 0 < (escape c).length := by
      unfold escape
      repeat' split
      all_goals exact Nat.succ_pos _
    rw [writeBody, List.length_append, List.length_cons]
    omega

theorem length_lt_writeString (s : String) (rest : List Char) :
    rest.length < (writeString s rest).length := by
  have body := length_lt_writeBody s.toList rest
  rw [writeString, List.length_cons]
  omega

/-- **A string comes back.**  The quotes at its end are found, since quotes within it are written
with a backslash, and so are backslashes. -/
theorem readQuoted_writeBody (s : String) (rest : List Char) :
    readQuoted (writeBody s.toList rest) = .ok (s, rest) := by
  have enough := length_lt_writeBody s.toList rest
  rw [readQuoted, readBody_writeBody s.toList rest (by omega)]
  simp

/-! ## Reading what was written -/

/-- A value in front of what may follow it is read to its end.  No result means that the
reader finds a fault in it. -/
def Reads {α : Type} (read : List Char → Reading α) (v : Json) (result : Option α) : Prop :=
  ∀ rest, Stops rest → (read (v.write rest)).toOption = result.map fun x => (x, rest)

/-- Either something is read, or there is a fault and no result. -/
theorem reading_cases {α : Type} {reading : Reading α} {result : Option α} {rest : List Char}
    (read : reading.toOption = result.map fun x => (x, rest)) :
    (∃ x, result = some x ∧ reading = .ok (x, rest)) ∨
      (result = none ∧ ∃ fault, reading = .error fault) := by
  cases reading with
  | error fault =>
    cases result with
    | none => exact .inr ⟨rfl, fault, rfl⟩
    | some x => cases read
  | ok found =>
    cases result with
    | none => cases read
    | some x =>
      cases read
      exact .inl ⟨x, rfl, rfl⟩

/-- A value that stands alone, with nothing behind it that could be at fault. -/
theorem Reads.whole {α : Type} {read : List Char → Reading α} {v : Json} {result : Option α}
    (reads : Reads read v result) : (readWholeText read v.text.toList).toOption = result := by
  have chars : v.text.toList = v.write [] := String.toList_ofList
  unfold readWholeText
  rw [chars]
  obtain ⟨x, found, reading⟩ | ⟨missing, fault, failed⟩ := reading_cases (reads [] trivial)
  · rw [reading, found]
    rfl
  · rw [failed, missing]
    rfl

/-- The first character of a number. -/
theorem text_head (n : Number) :
    ∃ c cs, n.text = c :: cs ∧ (c = '-' ∨ Numeral.isDigit c = true) := by
  obtain ⟨negative, cs, ⟨ds, fraction, exponent, nonempty, digits, -, -, rfl⟩, text⟩ := n.text_form
  cases negative with
  | true => exact ⟨'-', _, text, .inl rfl⟩
  | false =>
    cases ds with
    | nil => exact absurd rfl nonempty
    | cons d ds => exact ⟨d, _, text, .inr (Numeral.digits_cons.mp digits).1⟩

theorem isBlank_of_isDigit {c : Char} (digit : Numeral.isDigit c = true) : isBlank c = false := by
  have other {d : Char} := Numeral.ne_of_isDigit (d := d) digit
  simp [isBlank, @other ' ' rfl, @other '\n' rfl, @other '\t' rfl, @other '\r' rfl]

/-- The first character of a value, by which the reader knows that it is one.  It is neither a blank
nor a closing bracket. -/
theorem write_head (v : Json) (rest : List Char) :
    ∃ c cs, v.write rest = c :: cs ∧ isBlank c = false ∧ c ≠ ']' ∧ c ≠ '}' := by
  cases v with
  | null => exact ⟨_, _, rfl, rfl, by decide, by decide⟩
  | bool b => cases b <;> exact ⟨_, _, rfl, rfl, by decide, by decide⟩
  | number n =>
    obtain ⟨c, cs, text, head⟩ := text_head n
    refine ⟨c, cs ++ rest, by rw [write, text]; rfl, ?_⟩
    obtain rfl | digit := head
    · decide
    · exact ⟨isBlank_of_isDigit digit, Numeral.ne_of_isDigit digit rfl,
        Numeral.ne_of_isDigit digit rfl⟩
  | string s => exact ⟨_, _, rfl, rfl, by decide, by decide⟩
  | array items => cases items <;> exact ⟨_, _, rfl, rfl, by decide, by decide⟩
  | object members => cases members <;> exact ⟨_, _, rfl, rfl, by decide, by decide⟩

theorem skipBlanks_cons {c : Char} (shown : isBlank c = false) (cs : List Char) :
    skipBlanks (c :: cs) = c :: cs := by
  simp [skipBlanks, shown]

mutual

/-- What is written of a value is not empty.  Hence the text of a list is fuel enough for reading
the list. -/
theorem length_lt_write : ∀ (v : Json) (rest : List Char), rest.length < (v.write rest).length
  | null, rest => by simp only [write, List.length_cons]; omega
  | bool true, rest => by simp only [write, List.length_cons]; omega
  | bool false, rest => by simp only [write, List.length_cons]; omega
  | number n, rest => by
    obtain ⟨c, cs, text, -⟩ := text_head n
    simp only [write, text, List.length_append, List.length_cons]
    omega
  | string s, rest => length_lt_writeString s rest
  | array [], rest => by simp only [write, List.length_cons]; omega
  | array (x :: xs), rest => by
    have first := length_lt_write x (writeItems xs rest)
    have others := length_lt_writeItems xs rest
    simp only [write, List.length_cons]
    omega
  | object [], rest => by simp only [write, List.length_cons]; omega
  | object ((k, v) :: ms), rest => by
    have key := length_lt_writeString k (':' :: write v (writeMembers ms rest))
    have first := length_lt_write v (writeMembers ms rest)
    have others := length_lt_writeMembers ms rest
    simp only [write, List.length_cons] at key ⊢
    omega

/-- What is written of items is longer than the list, which is the fuel that reading them takes. -/
theorem length_lt_writeItems : ∀ (xs : List Json) (rest : List Char),
    xs.length + rest.length < (writeItems xs rest).length
  | [], rest => by simp [writeItems]
  | x :: xs, rest => by
    have first := length_lt_write x (writeItems xs rest)
    have others := length_lt_writeItems xs rest
    simp only [writeItems, List.length_cons]
    omega

theorem length_lt_writeMembers : ∀ (ms : List (String × Json)) (rest : List Char),
    ms.length + rest.length < (writeMembers ms rest).length
  | [], rest => by simp [writeMembers]
  | (k, v) :: ms, rest => by
    have key := length_lt_writeString k (':' :: write v (writeMembers ms rest))
    have first := length_lt_write v (writeMembers ms rest)
    have others := length_lt_writeMembers ms rest
    simp only [writeMembers, List.length_cons] at key ⊢
    omega

end

/-- Behind an item there is a comma or a bracket. -/
theorem stops_writeItems (xs : List Json) (rest : List Char) : Stops (writeItems xs rest) := by
  cases xs with
  | nil => exact .inr (.inl rfl)
  | cons x xs => exact .inl rfl

theorem stops_writeMembers (ms : List (String × Json)) (rest : List Char) :
    Stops (writeMembers ms rest) := by
  cases ms with
  | nil => exact .inr (.inr rfl)
  | cons m ms => exact .inl rfl

/-! ## Arrays -/

section Arrays

variable {α β : Type} {item : List Char → Reading α} {entry : β → Json} {result : β → Option α}

/-- The first item has no comma in front. -/
theorem nextItem_write_first (v : Json) (rest : List Char) :
    nextItem true (v.write rest) = .ok (some (v.write rest)) := by
  obtain ⟨c, cs, head, shown, noBracket, -⟩ := write_head v rest
  simp only [head, nextItem, skipBlanks_cons shown, noBracket, if_false, if_true]

/-- The others have one. -/
theorem nextItem_write_next (v : Json) (rest : List Char) :
    nextItem false (',' :: v.write rest) = .ok (some (v.write rest)) := by
  obtain ⟨c, cs, head, shown, noBracket, -⟩ := write_head v rest
  have comma : skipBlanks (',' :: c :: cs) = ',' :: c :: cs := skipBlanks_cons rfl _
  have notClosing : ',' ≠ ']' := by decide
  simp only [head, nextItem, comma, skipBlanks_cons shown, notClosing, Bool.false_eq_true,
    if_false, if_true]
  split
  · rename_i missing
    cases missing
  · rename_i bracket
    exact absurd (List.cons.inj bracket).1 noBracket
  · rfl

/-- One item more, whether or not a comma stands before it. -/
theorem readItems_cons {x : β} {xs : List β} {rest cs fuel : List Char} {first : Bool}
    (mark : Char)
    (next : nextItem first cs =
      .ok (some ((entry x).write (writeItems (xs.map entry) rest))))
    (reads : Reads item (entry x) (result x))
    (others : (readItems item fuel false (writeItems (xs.map entry) rest)).toOption =
      (xs.mapM result).map fun ys => (ys, ']' :: rest)) :
    (readItems item (mark :: fuel) first cs).toOption =
      ((x :: xs).mapM result).map fun ys => (ys, ']' :: rest) := by
  rw [readItems, next, List.mapM_cons]
  obtain ⟨y, found, read⟩ | ⟨missing, fault, failed⟩ :=
    reading_cases (reads _ (stops_writeItems (xs.map entry) rest))
  · obtain ⟨ys, foundAll, readAll⟩ | ⟨missing, fault, failed⟩ := reading_cases others
    · simp only [read, found, readAll, foundAll]
      rfl
    · simp only [read, found, failed, missing]
      rfl
  · simp only [failed, missing]
    rfl

/-- The items behind the first come back, up to the bracket.  The induction is on the items, and the
fuel need only be longer than the list. -/
theorem readItems_writeItems (xs : List β)
    (reads : ∀ x ∈ xs, Reads item (entry x) (result x)) (rest : List Char) {fuel : List Char}
    (enough : xs.length < fuel.length) :
    (readItems item fuel false (writeItems (xs.map entry) rest)).toOption =
      (xs.mapM result).map fun ys => (ys, ']' :: rest) := by
  induction xs generalizing fuel with
  | nil =>
    cases fuel with
    | nil => cases enough
    | cons mark fuel => rfl
  | cons x xs ih =>
    cases fuel with
    | nil => cases enough
    | cons mark fuel =>
      have others := ih (fun y there => reads y (List.mem_cons_of_mem x there))
        (Nat.lt_of_succ_lt_succ enough)
      exact readItems_cons mark (nextItem_write_next _ _) (reads x List.mem_cons_self) others

/-- **An array comes back as what is read of its items.**  The items may be anything that is written
as a value, so that lists in entries are read by this, too. -/
theorem readArray_write {xs : List β} (reads : ∀ x ∈ xs, Reads item (entry x) (result x))
    {rest cs : List Char} (written : (array (xs.map entry)).write rest = '[' :: cs) :
    (readArray item cs).toOption = (xs.mapM result).map fun ys => (ys, rest) := by
  have all : (readItems item cs true cs).toOption =
      (xs.mapM result).map fun ys => (ys, ']' :: rest) := by
    cases xs with
    | nil =>
      cases written
      rfl
    | cons x xs =>
      have text : cs = (entry x).write (writeItems (xs.map entry) rest) :=
        (List.cons.inj written).2.symm
      have long := length_lt_write (entry x) (writeItems (xs.map entry) rest)
      have items := length_lt_writeItems (xs.map entry) rest
      rw [← text] at long
      rw [List.length_map] at items
      cases fuel : cs with
      | nil => simp [fuel] at long
      | cons mark more =>
        -- The text is the fuel, and each item takes at least one character of it.
        have enough : xs.length < more.length := by
          simp only [fuel, List.length_cons] at long
          omega
        have others := readItems_writeItems xs
          (fun y there => reads y (List.mem_cons_of_mem x there)) rest enough
        refine readItems_cons mark ?_ (reads x List.mem_cons_self) others
        rw [← fuel, text]
        exact nextItem_write_first _ _
  obtain ⟨ys, found, read⟩ | ⟨missing, fault, failed⟩ := reading_cases all
  · rw [readArray, read, found]
    rfl
  · rw [readArray, failed, missing]
    rfl

end Arrays

/-! ## Objects -/

section Objects

variable {α : Type} {value : List Char → Reading α} {result : Json → Option α}

theorem nextMember_write_first (key : String) (rest : List Char) :
    nextMember true (writeString key rest) = .ok (some (key, rest)) := by
  have quote : skipBlanks ('"' :: writeBody key.toList rest) = '"' :: writeBody key.toList rest :=
    skipBlanks_cons rfl _
  have notClosing : '"' ≠ '}' := by decide
  simp only [writeString, nextMember, quote, notClosing, if_false, if_true, readQuoted_writeBody]
  rfl

theorem nextMember_write_next (key : String) (rest : List Char) :
    nextMember false (',' :: writeString key rest) = .ok (some (key, rest)) := by
  have comma : skipBlanks (',' :: '"' :: writeBody key.toList rest) =
      ',' :: '"' :: writeBody key.toList rest := skipBlanks_cons rfl _
  have quote : skipBlanks ('"' :: writeBody key.toList rest) = '"' :: writeBody key.toList rest :=
    skipBlanks_cons rfl _
  have notClosing : ',' ≠ '}' := by decide
  simp only [writeString, nextMember, comma, quote, notClosing, Bool.false_eq_true, if_false,
    if_true, readQuoted_writeBody]
  rfl

theorem readColon_write (rest : List Char) : readColon (':' :: rest) = .ok rest := rfl

/-- The result for a member, with its key. -/
def memberResult (result : Json → Option α) (m : String × Json) : Option (String × α) :=
  (result m.2).map fun x => (m.1, x)

/-- One member more, whether or not a comma stands before it. -/
theorem readMembers_cons {key : String} {v : Json} {ms : List (String × Json)}
    {rest cs fuel : List Char} {first : Bool} (mark : Char)
    (next : nextMember first cs = .ok (some (key, ':' :: v.write (writeMembers ms rest))))
    (reads : Reads value v (result v))
    (others : (readMembers value fuel false (writeMembers ms rest)).toOption =
      (ms.mapM (memberResult result)).map fun ys => (ys, '}' :: rest)) :
    (readMembers value (mark :: fuel) first cs).toOption =
      (((key, v) :: ms).mapM (memberResult result)).map fun ys => (ys, '}' :: rest) := by
  rw [readMembers, next, List.mapM_cons]
  simp only [readColon_write]
  obtain ⟨y, found, read⟩ | ⟨missing, fault, failed⟩ :=
    reading_cases (reads _ (stops_writeMembers ms rest))
  · obtain ⟨ys, foundAll, readAll⟩ | ⟨missing, fault, failed⟩ := reading_cases others
    · simp only [read, memberResult, found, readAll, foundAll]
      rfl
    · simp only [read, memberResult, found, failed, missing]
      rfl
  · simp only [failed, memberResult, missing]
    rfl

/-- The members behind the first come back, up to the brace. -/
theorem readMembers_writeMembers {ms : List (String × Json)}
    (reads : ∀ m ∈ ms, Reads value m.2 (result m.2)) (rest : List Char) {fuel : List Char}
    (enough : ms.length < fuel.length) :
    (readMembers value fuel false (writeMembers ms rest)).toOption =
      (ms.mapM (memberResult result)).map fun ys => (ys, '}' :: rest) := by
  induction ms generalizing fuel with
  | nil =>
    cases fuel with
    | nil => cases enough
    | cons mark fuel => rfl
  | cons m ms ih =>
    cases fuel with
    | nil => cases enough
    | cons mark fuel =>
      have others := ih (fun y there => reads y (List.mem_cons_of_mem m there))
        (Nat.lt_of_succ_lt_succ enough)
      exact readMembers_cons mark (nextMember_write_next _ _) (reads m List.mem_cons_self) others

/-- **An object comes back as what is read of its members.**  Whatever follows it is left to be
read, so that objects can stand in arrays and in other objects. -/
theorem readObject_write {ms : List (String × Json)}
    (reads : ∀ m ∈ ms, Reads value m.2 (result m.2)) {rest cs : List Char}
    (written : (object ms).write rest = '{' :: cs) :
    (readObject value cs).toOption = (ms.mapM (memberResult result)).map fun ys => (ys, rest) := by
  have all : (readMembers value cs true cs).toOption =
      (ms.mapM (memberResult result)).map fun ys => (ys, '}' :: rest) := by
    cases ms with
    | nil =>
      cases written
      rfl
    | cons m ms =>
      have text : cs = writeString m.1 (':' :: m.2.write (writeMembers ms rest)) :=
        (List.cons.inj written).2.symm
      have long := length_lt_writeString m.1 (':' :: m.2.write (writeMembers ms rest))
      have value := length_lt_write m.2 (writeMembers ms rest)
      have members := length_lt_writeMembers ms rest
      rw [← text, List.length_cons] at long
      cases fuel : cs with
      | nil => simp [fuel] at long
      | cons mark more =>
        have enough : ms.length < more.length := by
          simp only [fuel, List.length_cons] at long
          omega
        have others := readMembers_writeMembers
          (fun y there => reads y (List.mem_cons_of_mem m there)) rest enough
        refine readMembers_cons mark ?_ (reads m List.mem_cons_self) others
        rw [← fuel, text]
        exact nextMember_write_first _ _
  obtain ⟨ys, found, read⟩ | ⟨missing, fault, failed⟩ := reading_cases all
  · rw [readObject, read, found]
    rfl
  · rw [readObject, failed, missing]
    rfl

end Objects

/-! ## Values -/

mutual

/-- What a value is when it is read from its own text: each number is read again. There is nothing
to read where one of them cannot be. -/
def reread : Json → Option Json
  | number n => n.reread.map number
  | array items => (rereadItems items).map array
  | object members => (rereadMembers members).map object
  | v => some v

/-- What items are when they are read again. -/
def rereadItems : List Json → Option (List Json)
  | [] => some []
  | x :: xs => do return (← reread x) :: (← rereadItems xs)

/-- What members are when they are read again. -/
def rereadMembers : List (String × Json) → Option (List (String × Json))
  | [] => some []
  | (key, x) :: ms => do return (key, ← reread x) :: (← rereadMembers ms)

end

/-- The recursion over items is that of lists. -/
theorem rereadItems_eq_mapM (xs : List Json) : rereadItems xs = xs.mapM reread := by
  induction xs with
  | nil => rfl
  | cons x xs ih => rw [List.mapM_cons, rereadItems, ih]

theorem rereadMembers_eq_mapM (ms : List (String × Json)) :
    rereadMembers ms = ms.mapM (memberResult reread) := by
  induction ms with
  | nil => rfl
  | cons m ms ih =>
    obtain ⟨key, x⟩ := m
    rw [List.mapM_cons, rereadMembers, ih, memberResult]
    cases x.reread <;> rfl

/-- Members that come in the order of their keys stay as they are. -/
theorem insertMember_last {key : String} (v : Json) {ms : List (String × Json)}
    (before : ∀ m ∈ ms, m.1 < key) : insertMember key v ms = ms ++ [(key, v)] := by
  induction ms with
  | nil => rfl
  | cons m ms ih =>
    have first := before m List.mem_cons_self
    have others := ih fun y there => before y (List.mem_cons_of_mem m there)
    have notBefore : ¬ key < m.1 := String.lt_asymm first
    have notSame : key ≠ m.1 := by
      rintro rfl
      exact String.lt_irrefl _ first
    simp [insertMember, notBefore, notSame, others]

/-- Members that are sorted are inserted one behind the other. -/
theorem foldl_insertMember (ms acc : List (String × Json)) (sorted : Sorted (acc ++ ms)) :
    ms.foldl (fun acc m => insertMember m.1 m.2 acc) acc = acc ++ ms := by
  induction ms generalizing acc with
  | nil => simp
  | cons m ms ih =>
    have before : ∀ y ∈ acc, y.1 < m.1 := by
      intro y there
      rw [Sorted, List.map_append, List.pairwise_append] at sorted
      exact sorted.2.2 y.1 (List.mem_map_of_mem there) m.1 (by simp)
    rw [List.foldl_cons, insertMember_last m.2 before, ih (acc ++ [m]) (by simpa using sorted)]
    simp

/-- The object of sorted members has them in their order. -/
theorem ofMembers_sorted {ms : List (String × Json)} (sorted : Sorted ms) :
    ofMembers ms = object ms := by
  rw [ofMembers, foldl_insertMember ms [] sorted, List.nil_append]

/-- Reading again changes no key. -/
theorem keys_of_rereadMembers {ms ms' : List (String × Json)}
    (read : rereadMembers ms = some ms') : ms'.map Prod.fst = ms.map Prod.fst := by
  induction ms generalizing ms' with
  | nil =>
    cases read
    rfl
  | cons m ms ih =>
    obtain ⟨key, x⟩ := m
    simp only [rereadMembers, Option.bind_eq_bind, Option.bind_eq_some_iff] at read
    obtain ⟨y, -, ys, readAll, same⟩ := read
    cases same
    simp [ih readAll]

/-- So members that are read again are as sorted as before. -/
theorem sorted_of_rereadMembers {ms ms' : List (String × Json)}
    (read : rereadMembers ms = some ms') (sorted : Sorted ms) : Sorted ms' := by
  rw [Sorted, keys_of_rereadMembers read]
  exact sorted

/-- A value that opens no bracket is read in the same way at every depth. -/
theorem readValue_scalar (nesting : Nat) {c : Char} {cs : List Char} (shown : isBlank c = false)
    (noArray : c ≠ '[') (noObject : c ≠ '{') :
    readValue nesting (c :: cs) = readScalar (c :: cs) := by
  unfold readValue
  rw [skipBlanks_cons shown]
  split
  · rename_i same
    exact absurd (List.cons.inj same).1 noArray
  · rename_i same
    exact absurd (List.cons.inj same).1 noObject
  · rfl

theorem readValue_number (nesting : Nat) (n : Number) (rest : List Char) :
    readValue nesting (n.text ++ rest) = readScalar (n.text ++ rest) := by
  obtain ⟨c, cs, text, head⟩ := text_head n
  rw [text]
  obtain rfl | digit := head
  · exact readValue_scalar nesting rfl (by decide) (by decide)
  · exact readValue_scalar nesting (isBlank_of_isDigit digit) (Numeral.ne_of_isDigit digit rfl)
      (Numeral.ne_of_isDigit digit rfl)

mutual

/-- **A value comes back with its numbers read again.**  The recursion is that of the printer, over
values, items and members; the depth that may be opened goes down with each bracket, as the reader
counts it. -/
theorem readValue_write : ∀ (v : Json) {nesting : Nat}, v.WellFormed → v.depth ≤ nesting →
    Reads (readValue nesting) v v.reread
  | null, nesting, _, _ => fun rest _ => by
    rw [write, readValue_scalar nesting rfl (by decide) (by decide)]
    rfl
  | bool true, nesting, _, _ => fun rest _ => by
    rw [write, readValue_scalar nesting rfl (by decide) (by decide)]
    rfl
  | bool false, nesting, _, _ => fun rest _ => by
    rw [write, readValue_scalar nesting rfl (by decide) (by decide)]
    rfl
  | number n, nesting, _, _ => fun rest stops => by
    rw [write, readValue_number, n.readScalar_text rest stops, reread]
  | string s, nesting, _, _ => fun rest _ => by
    rw [write, writeString, readValue_scalar nesting rfl (by decide) (by decide)]
    have read : readScalar ('"' :: writeBody s.toList rest) =
        (readQuoted (writeBody s.toList rest)).map fun (s, rest) => (string s, rest) := rfl
    rw [read, readQuoted_writeBody]
    rfl
  | array items, nesting, wellFormed, shallow => fun rest stops => by
    cases nesting with
    | zero => cases shallow
    | succ nesting =>
      have reads : ∀ x ∈ items, Reads (readValue nesting) (id x) x.reread :=
        readValue_writeItems items wellFormed (Nat.le_of_succ_le_succ shallow)
      obtain ⟨cs, written⟩ : ∃ cs, (array items).write rest = '[' :: cs := by
        cases items <;> exact ⟨_, rfl⟩
      have opened : readValue (nesting + 1) ('[' :: cs) =
          (readArray (readValue nesting) cs).map fun (items, rest) => (array items, rest) := rfl
      have inside := readArray_write reads (by simpa using written)
      rw [written, opened, toOption_map, inside, reread, rereadItems_eq_mapM]
      cases items.mapM reread <;> rfl
  | object members, nesting, wellFormed, shallow => fun rest stops => by
    cases nesting with
    | zero => cases shallow
    | succ nesting =>
      have reads := readValue_writeMembers members wellFormed.2 (Nat.le_of_succ_le_succ shallow)
      obtain ⟨cs, written⟩ : ∃ cs, (object members).write rest = '{' :: cs := by
        cases members <;> exact ⟨_, rfl⟩
      have opened : readValue (nesting + 1) ('{' :: cs) =
          (readObject (readValue nesting) cs).map fun (members, rest) =>
            (ofMembers members, rest) := rfl
      rw [written, opened, toOption_map, readObject_write reads written, reread,
        ← rereadMembers_eq_mapM]
      cases read : rereadMembers members with
      | none => rfl
      | some members' =>
        have same := ofMembers_sorted (sorted_of_rereadMembers read wellFormed.1)
        simp only [Option.map_some, same]

theorem readValue_writeItems : ∀ (xs : List Json) {nesting : Nat}, WellFormedItems xs →
    depthItems xs ≤ nesting → ∀ x ∈ xs, Reads (readValue nesting) x x.reread
  | [], nesting, _, _ => nofun
  | x :: xs, nesting, wellFormed, shallow => by
    have first := readValue_write x wellFormed.1 (Nat.le_trans (Nat.le_max_left _ _) shallow)
    have others := readValue_writeItems xs wellFormed.2
      (Nat.le_trans (Nat.le_max_right _ _) shallow)
    intro y there
    obtain rfl | there := List.mem_cons.mp there
    · exact first
    · exact others y there

theorem readValue_writeMembers : ∀ (ms : List (String × Json)) {nesting : Nat},
    WellFormedMembers ms → depthMembers ms ≤ nesting →
    ∀ m ∈ ms, Reads (readValue nesting) m.2 m.2.reread
  | [], nesting, _, _ => nofun
  | (key, x) :: ms, nesting, wellFormed, shallow => by
    have first := readValue_write x wellFormed.1 (Nat.le_trans (Nat.le_max_left _ _) shallow)
    have others := readValue_writeMembers ms wellFormed.2
      (Nat.le_trans (Nat.le_max_right _ _) shallow)
    intro m there
    obtain rfl | there := List.mem_cons.mp there
    · exact first
    · exact others m there

end

/-- **The text of a value is read as the value with its numbers read again.**  The nesting is
bounded, since the reader gives up on what is nested more deeply than that. -/
theorem parse_text {v : Json} (wellFormed : v.WellFormed) (shallow : v.depth ≤ maxNesting) :
    (parse v.text).toOption = v.reread :=
  (toOption_mapError _ _).trans (Reads.whole (readValue_write v wellFormed shallow))

/-! ## Which values change -/

mutual

/-- The numbers in a value.  They are all there is to look at if one asks whether it comes back from
its text. -/
def numbers : Json → List Number
  | number n => [n]
  | array items => numbersOfItems items
  | object members => numbersOfMembers members
  | _ => []

/-- The numbers in items. -/
def numbersOfItems : List Json → List Number
  | [] => []
  | x :: xs => numbers x ++ numbersOfItems xs

/-- The numbers in the values of members. -/
def numbersOfMembers : List (String × Json) → List Number
  | [] => []
  | (_, x) :: ms => numbers x ++ numbersOfMembers ms

end

mutual

/-- A value cannot be read again just if one of its numbers cannot. -/
theorem reread_eq_none_iff : ∀ v : Json, v.reread = none ↔ ∃ n ∈ v.numbers, n.reread = none
  | null => by simp [reread, numbers]
  | bool _ => by simp [reread, numbers]
  | string _ => by simp [reread, numbers]
  | number n => by simp [reread, numbers]
  | array items => by simp [reread, numbers, rereadItems_eq_none_iff items]
  | object members => by simp [reread, numbers, rereadMembers_eq_none_iff members]

/-- The same for items. -/
theorem rereadItems_eq_none_iff : ∀ xs : List Json,
    rereadItems xs = none ↔ ∃ n ∈ numbersOfItems xs, n.reread = none
  | [] => by simp [rereadItems, numbersOfItems]
  | x :: xs => by
    have first := reread_eq_none_iff x
    have others := rereadItems_eq_none_iff xs
    simp only [rereadItems, numbersOfItems, List.mem_append, or_and_right, exists_or, ← first,
      ← others]
    cases x.reread <;> cases rereadItems xs <;> simp

theorem rereadMembers_eq_none_iff : ∀ ms : List (String × Json),
    rereadMembers ms = none ↔ ∃ n ∈ numbersOfMembers ms, n.reread = none
  | [] => by simp [rereadMembers, numbersOfMembers]
  | (key, x) :: ms => by
    have first := reread_eq_none_iff x
    have others := rereadMembers_eq_none_iff ms
    simp only [rereadMembers, numbersOfMembers, List.mem_append, or_and_right, exists_or, ← first,
      ← others]
    cases x.reread <;> cases rereadMembers ms <;> simp

end

mutual

/-- A value comes back as it was just if all its numbers do.  Strings, keys and the order of members
are never at risk. -/
theorem reread_eq_self_iff : ∀ v : Json, v.reread = some v ↔ ∀ n ∈ v.numbers, n.reread = some n
  | null => by simp [reread, numbers]
  | bool _ => by simp [reread, numbers]
  | string _ => by simp [reread, numbers]
  | number n => by simp [reread, numbers]
  | array items => by simp [reread, numbers, rereadItems_eq_self_iff items]
  | object members => by simp [reread, numbers, rereadMembers_eq_self_iff members]

/-- The same for items. -/
theorem rereadItems_eq_self_iff : ∀ xs : List Json,
    rereadItems xs = some xs ↔ ∀ n ∈ numbersOfItems xs, n.reread = some n
  | [] => by simp [rereadItems, numbersOfItems]
  | x :: xs => by
    have first := reread_eq_self_iff x
    have others := rereadItems_eq_self_iff xs
    simp only [rereadItems, numbersOfItems, List.mem_append, or_imp, forall_and, ← first, ← others]
    cases x.reread <;> cases rereadItems xs <;> simp

theorem rereadMembers_eq_self_iff : ∀ ms : List (String × Json),
    rereadMembers ms = some ms ↔ ∀ n ∈ numbersOfMembers ms, n.reread = some n
  | [] => by simp [rereadMembers, numbersOfMembers]
  | (key, x) :: ms => by
    have first := reread_eq_self_iff x
    have others := rereadMembers_eq_self_iff ms
    simp only [rereadMembers, numbersOfMembers, List.mem_append, or_imp, forall_and, ← first,
      ← others]
    cases x.reread <;> cases rereadMembers ms <;> simp

end

mutual

/-- The numbers in a well-formed value are well formed. -/
theorem wellFormed_numbers : ∀ v : Json, v.WellFormed → ∀ n ∈ v.numbers, n.WellFormed
  | null, _ => nofun
  | bool _, _ => nofun
  | string _, _ => nofun
  | number n, wellFormed => by
    intro m there
    rw [List.mem_singleton.mp there]
    exact wellFormed
  | array items, wellFormed => wellFormed_numbersOfItems items wellFormed
  | object members, wellFormed => wellFormed_numbersOfMembers members wellFormed.2

theorem wellFormed_numbersOfItems : ∀ xs : List Json, WellFormedItems xs →
    ∀ n ∈ numbersOfItems xs, n.WellFormed
  | [], _ => nofun
  | x :: xs, ⟨first, others⟩ => fun n there =>
    (List.mem_append.mp there).elim (wellFormed_numbers x first n)
      (wellFormed_numbersOfItems xs others n)

theorem wellFormed_numbersOfMembers : ∀ ms : List (String × Json), WellFormedMembers ms →
    ∀ n ∈ numbersOfMembers ms, n.WellFormed
  | [], _ => nofun
  | (_, x) :: ms, ⟨first, others⟩ => fun n there =>
    (List.mem_append.mp there).elim (wellFormed_numbers x first n)
      (wellFormed_numbersOfMembers ms others n)

end

end Json

end Decipher
