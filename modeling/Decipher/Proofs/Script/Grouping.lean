import Decipher.Proofs.Json.Numeral
import Decipher.Proofs.Script.Term

/-!
# How the text of an expression is read

The text of an expression has no brackets around its parts, so what stands in it is one
sequence: operators, then a name or a literal, then the accesses to its members.  `Sequence` is
an expression in this order, and its text can be read in one way only.  An expression of which
the member is taken of the value of an operator, `(-a).b`, comes out as the sequence of another
one, `-(a.b)`; these are all the expressions that have one text.

* `Sequence.write_injective`: a text is that of one sequence.
* `Term.regrouped`: the expression that the text of a term is read as.
* `text_eq_iff`: two terms have one text just if they are read as one.
* `regrouped_eq_self_iff`: a term is read as itself just if no member is taken of an operator.

## Why there is one reading

A text of a sequence is cut at its front.  In front there is an operator, a name or a literal, and
these are told apart by the part that could go on a name (`namePart`): for a name or a literal it
is the whole of it, for an operator that is a sign it is nothing, and for one that is a word it is
this word, which no name may be.  Behind a name or a literal there is a dot, a bracket or the end
of the term.  So nothing has to be looked at twice, and the induction over two sequences at once
goes through with no case that is decided later.

From sequences to terms the way is `Sequence.term`, and back it is `Term.sequence`.  The second is
not injective: it puts the operators in front.  `Term.regrouped` is the one after the other, and a
term is grouped if this changes nothing.
-/

namespace Decipher

namespace Expression

/-! ## Sequences -/

mutual

/-- An expression in the order of its text.  Operators come first and members last, so that a text
says which sequence it is, although it does not say which term. -/
inductive Sequence
  | unary (operator : Operator) (rest : Sequence)
  | atom (a : Atom) (accesses : Accesses)

/-- The members that are taken one after another. -/
inductive Accesses
  | none
  | dotted (property : Name) (rest : Accesses)
  | indexed (property : Sequence) (rest : Accesses)

end

/-- What an operator puts in front of its operand. -/
def Operator.opening (op : Operator) : List Char :=
  if isWordOperator op.symbol then op.symbol.toList ++ [' '] else op.symbol.toList

mutual

/-- The text of a sequence, in front of `rest`. -/
def Sequence.write : Sequence → List Char → List Char
  | .unary op s, rest => op.opening ++ s.write rest
  | .atom a accesses, rest => a.chars ++ accesses.write rest

/-- The text of accesses, in front of `rest`. -/
def Accesses.write : Accesses → List Char → List Char
  | .none, rest => rest
  | .dotted property accesses, rest => '.' :: (property.text.toList ++ accesses.write rest)
  | .indexed property accesses, rest => '[' :: property.write (']' :: accesses.write rest)

end

/-! ## Names, literals and operators in a text -/

/-- The part of a text that could go on a name.  A name or a literal is read up to where this part
ends. -/
def namePart (cs : List Char) : List Char := cs.takeWhile isNamePart

/-- A text that does not go on a name.  Without this a name could not be told from the beginning of
a longer one. -/
def EndsName : List Char → Prop
  | [] => True
  | c :: _ => isNamePart c = false

/-- A text that starts with characters of a name, and cannot go on with one behind them, has these
for its part. -/
theorem namePart_append {cs rest : List Char} (part : ∀ c ∈ cs, isNamePart c = true)
    (ends : EndsName rest) : namePart (cs ++ rest) = cs := by
  rw [namePart, List.takeWhile_append_of_pos part]
  cases rest with
  | nil => simp
  | cons c rest =>
    have no : isNamePart c = false := ends
    simp [no]

/-- What is known of the text of a name: it is not empty, starts as a name does, goes on as one
does, and is not an operator. -/
theorem Name.chars (n : Name) :
    ∃ c cs, n.text.toList = c :: cs ∧ isNameStart c = true ∧ (∀ d ∈ cs, isNamePart d = true) ∧
      n.text ∉ operatorWords := by
  have is := n.valid
  unfold isName at is
  split at is
  · cases is
  · rename_i c cs chars
    simp only [Bool.and_eq_true, List.all_eq_true, Bool.not_eq_true'] at is
    refine ⟨c, cs, chars, is.1.1, is.1.2, fun word => ?_⟩
    rw [List.contains_iff_mem.mpr word] at is
    cases is.2

/-- A digit may stand in a name, but not in front of it.  This is what tells a literal from a name,
while both end where no name could go on. -/
theorem isNamePart_of_isDigit {c : Char} (digit : Numeral.isDigit c = true) :
    isNamePart c = true ∧ isNameStart c = false := by
  have ascii : c.isDigit = true := by simpa [Numeral.isDigit, Char.isDigit, Char.le_def] using digit
  refine ⟨by rw [isNamePart, ascii, Bool.or_true], ?_⟩
  have letter : c.isAlpha = false := by
    show (decide ('A'.val ≤ c.val ∧ c.val ≤ 'Z'.val) ||
      (decide ('a'.val ≤ c.val) && decide (c.val ≤ 'z'.val))) = false
    simp only [Char.isDigit, Bool.and_eq_true, decide_eq_true_eq, ge_iff_le,
      Char.reduceVal, UInt32.le_iff_toNat_le, UInt32.reduceToNat] at ascii
    simp only [Bool.or_eq_false_iff, Bool.and_eq_false_iff, decide_eq_false_iff_not,
      Char.reduceVal, UInt32.le_iff_toNat_le, UInt32.reduceToNat]
    omega
  have other {d : Char} := Numeral.ne_of_isDigit (d := d) digit
  simp [isNameStart, letter, @other '_' rfl, @other '$' rfl]

/-- A name or a literal is as much of its text as could go on a name. -/
theorem Atom.namePart_chars (a : Atom) {rest : List Char} (ends : EndsName rest) :
    namePart (a.chars ++ rest) = a.chars := by
  refine namePart_append ?_ ends
  cases a with
  | name n =>
    obtain ⟨c, cs, chars, first, others, -⟩ := n.chars
    rw [Atom.chars, chars, List.forall_mem_cons]
    exact ⟨by rw [isNamePart, first, Bool.true_or], others⟩
  | literal value =>
    exact fun c there => (isNamePart_of_isDigit (Numeral.digits_digitChars value c there)).1

theorem digitChars_injective {m n : Nat} (same : Decimal.digitChars m = Decimal.digitChars n) :
    m = n := by
  rw [← Numeral.ofDigitChars_digitChars m, same, Numeral.ofDigitChars_digitChars]

/-- An atom is told from its text: a name does not start with a digit, and a literal does.  The
digits of a literal tell its value. -/
theorem Atom.chars_injective {a b : Atom} (same : a.chars = b.chars) : a = b := by
  -- A name does not begin with a digit, and a numeral does.
  have apart (n : Name) (value : Nat) : n.text.toList ≠ Decimal.digitChars value := by
    intro same
    obtain ⟨c, cs, chars, first, -⟩ := n.chars
    have there : c ∈ Decimal.digitChars value := by rw [← same, chars]; exact List.mem_cons_self
    have digit := Numeral.digits_digitChars value c there
    rw [(isNamePart_of_isDigit digit).2] at first
    cases first
  cases a with
  | name n =>
    cases b with
    | name m =>
      obtain ⟨text, _⟩ := n
      obtain ⟨text', _⟩ := m
      cases String.toList_inj.mp same
      rfl
    | literal value => exact absurd same (apart n value)
  | literal value =>
    cases b with
    | name n => exact absurd same.symm (apart n value)
    | literal value' => rw [digitChars_injective same]

/-- Which operator stands in front of a text can be told. -/
theorem Operator.opening_injective {op op' : Operator} {cs cs' : List Char}
    (same : op.opening ++ cs = op'.opening ++ cs') : op = op' ∧ cs = cs' := by
  cases op <;> cases op' <;> first
    | exact ⟨rfl, by simpa [Operator.opening, Operator.symbol, isWordOperator] using same⟩
    | simp [Operator.opening, Operator.symbol, isWordOperator] at same

/-- An operator that is a sign puts nothing in front of its operand that could go on a name, and one
that is a word puts itself there. -/
theorem Operator.namePart_opening (op : Operator) (cs : List Char) :
    namePart (op.opening ++ cs) = [] ∨
      ∃ word ∈ operatorWords, namePart (op.opening ++ cs) = word.toList := by
  cases op with
  | minus | plus | not | complement => exact .inl rfl
  | typeof => exact .inr ⟨"typeof", by decide, rfl⟩
  | void => exact .inr ⟨"void", by decide, rfl⟩
  | delete => exact .inr ⟨"delete", by decide, rfl⟩

/-- No name or literal is nothing or an operator. -/
theorem Atom.chars_ne (a : Atom) :
    a.chars ≠ [] ∧ ∀ word ∈ operatorWords, a.chars ≠ word.toList := by
  cases a with
  | name n =>
    obtain ⟨c, cs, chars, -, -, noWord⟩ := n.chars
    refine ⟨fun empty => ?_, fun word there same => ?_⟩
    · rw [Atom.chars, chars] at empty
      cases empty
    · rw [String.toList_inj.mp same] at noWord
      exact noWord there
  | literal value =>
    refine ⟨Number.digitChars_ne_nil value, fun word there same => ?_⟩
    have digits := Numeral.digits_digitChars value
    rw [show Decimal.digitChars value = word.toList from same] at digits
    simp only [operatorWords, List.mem_cons, List.not_mem_nil, or_false] at there
    obtain rfl | rfl | rfl := there
    · exact absurd (digits 't' (by decide)) (by decide)
    · exact absurd (digits 'v' (by decide)) (by decide)
    · exact absurd (digits 'd' (by decide)) (by decide)

/-- What stands in front of an operand is told from a name or a literal.  The words are the reason
why a name must not be one of them. -/
theorem Operator.opening_ne_chars (op : Operator) (a : Atom) {cs rest : List Char}
    (ends : EndsName rest) : op.opening ++ cs ≠ a.chars ++ rest := by
  intro same
  have part : namePart (op.opening ++ cs) = a.chars := by rw [same, a.namePart_chars ends]
  obtain ⟨notEmpty, noWord⟩ := a.chars_ne
  obtain empty | ⟨word, there, is⟩ := op.namePart_opening cs
  · exact notEmpty (part.symm.trans empty)
  · exact noWord word there (part.symm.trans is)

/-! ## One reading -/

/-- A text that goes on with no name and no access.  What stands in front of it is a whole term. -/
def EndsTerm : List Char → Prop
  | [] => True
  | c :: _ => isNamePart c = false ∧ c ≠ '.' ∧ c ≠ '['

theorem EndsTerm.endsName {rest : List Char} (ends : EndsTerm rest) : EndsName rest := by
  cases rest with
  | nil => trivial
  | cons c rest => exact ends.1

/-- Accesses start with a dot or a bracket, so that a name ends in front of them. -/
theorem Accesses.endsName_write (accesses : Accesses) {rest : List Char} (ends : EndsTerm rest) :
    EndsName (accesses.write rest) := by
  cases accesses with
  | none => exact ends.endsName
  | dotted property accesses => exact (rfl : isNamePart '.' = false)
  | indexed property accesses => exact (rfl : isNamePart '[' = false)

mutual

/-- **A text is that of one sequence**, and what follows it is told from it.  The induction is on
the first sequence, with the second one and both rests general, since the property of an access is a
sequence with a bracket behind it. -/
theorem Sequence.write_injective : ∀ (s t : Sequence) {rest rest' : List Char}, EndsTerm rest →
    EndsTerm rest' → s.write rest = t.write rest' → s = t ∧ rest = rest'
  | .unary op s, .unary op' t, rest, rest', ends, ends', same => by
    obtain ⟨rfl, operand⟩ := Operator.opening_injective same
    obtain ⟨rfl, follows⟩ := s.write_injective t ends ends' operand
    exact ⟨rfl, follows⟩
  | .unary op s, .atom a accesses, rest, rest', _, ends', same =>
    absurd same (op.opening_ne_chars a (accesses.endsName_write ends'))
  | .atom a accesses, .unary op t, rest, rest', ends, _, same =>
    absurd same.symm (op.opening_ne_chars a (accesses.endsName_write ends))
  | .atom a accesses, .atom b accesses', rest, rest', ends, ends', same => by
    have chars : a.chars = b.chars := by
      rw [← a.namePart_chars (accesses.endsName_write ends),
        ← b.namePart_chars (accesses'.endsName_write ends')]
      exact congrArg namePart same
    cases Atom.chars_injective chars
    obtain ⟨rfl, follows⟩ :=
      accesses.write_injective accesses' ends ends' (List.append_cancel_left same)
    exact ⟨rfl, follows⟩

/-- Accesses are told from one another by the character that they start with, and from what follows
them because that starts with none of these. -/
theorem Accesses.write_injective : ∀ (s t : Accesses) {rest rest' : List Char}, EndsTerm rest →
    EndsTerm rest' → s.write rest = t.write rest' → s = t ∧ rest = rest'
  | .none, .none, _, _, _, _, same => ⟨rfl, same⟩
  | .none, .dotted _ _, _, _, ends, _, same => by
    rw [Accesses.write] at same
    rw [same] at ends
    exact absurd rfl ends.2.1
  | .none, .indexed _ _, _, _, ends, _, same => by
    rw [Accesses.write] at same
    rw [same] at ends
    exact absurd rfl ends.2.2
  | .dotted _ _, .none, _, _, _, ends', same => by
    rw [Accesses.write, Accesses.write] at same
    rw [← same] at ends'
    exact absurd rfl ends'.2.1
  | .indexed _ _, .none, _, _, _, ends', same => by
    rw [Accesses.write, Accesses.write] at same
    rw [← same] at ends'
    exact absurd rfl ends'.2.2
  | .dotted _ _, .indexed _ _, _, _, _, _, same => nomatch (List.cons.inj same).1
  | .indexed _ _, .dotted _ _, _, _, _, _, same => nomatch (List.cons.inj same).1
  | .dotted p accesses, .dotted q accesses', rest, rest', ends, ends', same => by
    have inside := (List.cons.inj same).2
    have chars : (Atom.name p).chars = (Atom.name q).chars := by
      rw [← (Atom.name p).namePart_chars (accesses.endsName_write ends),
        ← (Atom.name q).namePart_chars (accesses'.endsName_write ends')]
      exact congrArg namePart inside
    cases Atom.chars_injective chars
    obtain ⟨rfl, follows⟩ :=
      accesses.write_injective accesses' ends ends' (List.append_cancel_left inside)
    exact ⟨rfl, follows⟩
  | .indexed s accesses, .indexed t accesses', rest, rest', ends, ends', same => by
    have bracket (cs : List Char) : EndsTerm (']' :: cs) := ⟨rfl, by decide, by decide⟩
    obtain ⟨rfl, closed⟩ := s.write_injective t (bracket _) (bracket _) (List.cons.inj same).2
    obtain ⟨rfl, follows⟩ :=
      accesses.write_injective accesses' ends ends' (List.cons.inj closed).2
    exact ⟨rfl, follows⟩

end

/-! ## The sequence of a term -/

/-- One list of accesses, then another. -/
def Accesses.append : Accesses → Accesses → Accesses
  | .none, after => after
  | .dotted property rest, after => .dotted property (rest.append after)
  | .indexed property rest, after => .indexed property (rest.append after)

/-- A sequence that goes on with accesses. -/
def Sequence.goOn : Sequence → Accesses → Sequence
  | .unary op s, after => .unary op (s.goOn after)
  | .atom a accesses, after => .atom a (accesses.append after)

/-- A term in the order of its text.  What is taken of a term goes behind all of it, also where the
term starts with an operator; this is where the grouping of terms is lost. -/
def Term.sequence : Term → Sequence
  | .atom a => .atom a .none
  | .dotted object property => object.sequence.goOn (.dotted property .none)
  | .indexed object property => object.sequence.goOn (.indexed property.sequence .none)
  | .unary op argument => .unary op argument.sequence

theorem Accesses.write_append : ∀ (accesses after : Accesses) (rest : List Char),
    (accesses.append after).write rest = accesses.write (after.write rest)
  | .none, _, _ => rfl
  | .dotted property accesses, after, rest => by
    rw [append, Accesses.write, Accesses.write, accesses.write_append]
  | .indexed property accesses, after, rest => by
    rw [append, Accesses.write, Accesses.write, accesses.write_append]

/-- Accesses behind a sequence are written behind it, which is what makes the accesses reach over
the operators in front. -/
theorem Sequence.write_goOn : ∀ (s : Sequence) (after : Accesses) (rest : List Char),
    (s.goOn after).write rest = s.write (after.write rest)
  | .unary op s, after, rest => by rw [goOn, Sequence.write, Sequence.write, s.write_goOn]
  | .atom a accesses, after, rest => by
    rw [goOn, Sequence.write, Sequence.write, Accesses.write_append]

theorem toList_unaryText (op : Operator) (argument : String) :
    (unaryText op.symbol argument).toList = op.opening ++ argument.toList := by
  unfold unaryText Operator.opening
  split <;> simp

/-- **The text of a term is that of its sequence**, whatever is written behind it.  So all questions
about texts are questions about sequences. -/
theorem toList_text (t : Term) (rest : List Char) :
    t.text.toList ++ rest = t.sequence.write rest := by
  induction t generalizing rest with
  | atom a => simp [Term.text, Term.sequence, Sequence.write, Accesses.write]
  | dotted object property ih =>
    rw [Term.sequence, Sequence.write_goOn, ← ih]
    simp [Term.text, memberText, Accesses.write]
  | indexed object property ih ih' =>
    rw [Term.sequence, Sequence.write_goOn, ← ih, Accesses.write, ← ih']
    simp [Term.text, memberText, Accesses.write]
  | unary op argument ih =>
    rw [Term.sequence, Sequence.write, ← ih, Term.text, toList_unaryText, List.append_assoc]

/-- A text is that of one sequence. -/
theorem text_eq_iff_sequence {s t : Term} : s.text = t.text ↔ s.sequence = t.sequence := by
  rw [← String.toList_inj]
  have chars (u : Term) : u.text.toList = u.sequence.write [] := by
    rw [← toList_text, List.append_nil]
  rw [chars, chars]
  refine ⟨fun same => ?_, fun same => by rw [same]⟩
  have ends : EndsTerm [] := trivial
  exact (s.sequence.write_injective t.sequence ends ends same).1

/-! ## What a text is read as -/

/-- Takes a member, or whatever else is done to an operand, behind the operators in front of a
term. -/
def Term.under (act : Term → Term) : Term → Term
  | .unary op argument => .unary op (argument.under act)
  | t => act t

/-- **The expression that the text of a term is read as**: an operator reaches over all accesses
behind it. -/
def Term.regrouped : Term → Term
  | .atom a => .atom a
  | .dotted object property => object.regrouped.under (.dotted · property)
  | .indexed object property => object.regrouped.under (.indexed · property.regrouped)
  | .unary op argument => .unary op argument.regrouped

mutual

/-- A sequence as it is read.  Members bind more tightly than operators, as they do in the language.
-/
def Sequence.term : Sequence → Term
  | .unary op s => .unary op s.term
  | .atom a accesses => accesses.onto (.atom a)

/-- A term with members taken of it. -/
def Accesses.onto : Accesses → Term → Term
  | .none, t => t
  | .dotted property rest, t => rest.onto (.dotted t property)
  | .indexed property rest, t => rest.onto (.indexed t property.term)

end

theorem Accesses.onto_append : ∀ (accesses after : Accesses) (t : Term),
    (accesses.append after).onto t = after.onto (accesses.onto t)
  | .none, _, _ => rfl
  | .dotted property accesses, after, t => by rw [append, onto, onto, accesses.onto_append]
  | .indexed property accesses, after, t => by rw [append, onto, onto, accesses.onto_append]

def Term.isUnary : Term → Bool
  | .unary _ _ => true
  | _ => false

/-- Where there are no operators in front an act is done to the term itself. -/
theorem Term.under_of_not_unary {t : Term} (other : t.isUnary = false) (act : Term → Term) :
    t.under act = act t := by
  cases t with
  | unary op argument => cases other
  | atom _ | dotted _ _ | indexed _ _ => rfl

/-- Taking a member of something makes it no operator. -/
theorem Accesses.isUnary_onto : ∀ (accesses : Accesses) {t : Term}, t.isUnary = false →
    (accesses.onto t).isUnary = false
  | .none, _, other => other
  | .dotted _ accesses, _, _ => accesses.isUnary_onto rfl
  | .indexed _ accesses, _, _ => accesses.isUnary_onto rfl

/-- Accesses that a sequence goes on with are done behind its operators. -/
theorem Sequence.term_goOn : ∀ (s : Sequence) (after : Accesses),
    (s.goOn after).term = s.term.under after.onto
  | .unary op s, after => by rw [goOn, Sequence.term, Sequence.term, Term.under, s.term_goOn]
  | .atom a accesses, after => by
    have other : (accesses.onto (.atom a)).isUnary = false := accesses.isUnary_onto rfl
    rw [goOn, Sequence.term, Sequence.term, Accesses.onto_append, Term.under_of_not_unary other]

/-- **What a term is read as is the term of its sequence.**  So regrouping, which is defined by
itself, is a way through the text and back. -/
theorem regrouped_eq (t : Term) : t.regrouped = t.sequence.term := by
  induction t with
  | atom a => rfl
  | dotted object property ih =>
    rw [Term.regrouped, Term.sequence, Sequence.term_goOn, ih]
    rfl
  | indexed object property ih ih' =>
    rw [Term.regrouped, Term.sequence, Sequence.term_goOn, ih, ih']
    rfl
  | unary op argument ih => rw [Term.regrouped, Term.sequence, Sequence.term, ih]

theorem Accesses.append_none : ∀ accesses : Accesses, accesses.append .none = accesses
  | .none => rfl
  | .dotted property accesses => by rw [append, accesses.append_none]
  | .indexed property accesses => by rw [append, accesses.append_none]

theorem Accesses.append_assoc : ∀ a b c : Accesses,
    (a.append b).append c = a.append (b.append c)
  | .none, _, _ => rfl
  | .dotted property a, b, c => by rw [append, append, append, a.append_assoc]
  | .indexed property a, b, c => by rw [append, append, append, a.append_assoc]

theorem Sequence.goOn_none : ∀ s : Sequence, s.goOn .none = s
  | .unary op s => by rw [goOn, s.goOn_none]
  | .atom a accesses => by rw [goOn, accesses.append_none]

theorem Sequence.goOn_goOn : ∀ (s : Sequence) (a b : Accesses),
    (s.goOn a).goOn b = s.goOn (a.append b)
  | .unary op s, a, b => by rw [goOn, goOn, goOn, s.goOn_goOn]
  | .atom c accesses, a, b => by rw [goOn, goOn, goOn, accesses.append_assoc]

mutual

/-- A sequence is that of the term that it is read as. -/
theorem sequence_term : ∀ s : Sequence, s.term.sequence = s
  | .unary op s => by rw [Sequence.term, Term.sequence, sequence_term s]
  | .atom a accesses => by rw [Sequence.term, sequence_onto accesses, Term.sequence]; rfl

/-- What a term with members taken of it is written as goes on from the term. -/
theorem sequence_onto : ∀ (accesses : Accesses) (t : Term),
    (accesses.onto t).sequence = t.sequence.goOn accesses
  | .none, t => t.sequence.goOn_none.symm
  | .dotted property accesses, t => by
    rw [Accesses.onto, sequence_onto accesses, Term.sequence, Sequence.goOn_goOn]
    rfl
  | .indexed property accesses, t => by
    rw [Accesses.onto, sequence_onto accesses, Term.sequence, Sequence.goOn_goOn,
      sequence_term property]
    rfl

end

/-- **Terms have one text just if they are read as one.**  Nothing but the grouping of members under
operators is lost in a text. -/
theorem text_eq_iff {s t : Term} : s.text = t.text ↔ s.regrouped = t.regrouped := by
  rw [text_eq_iff_sequence, regrouped_eq, regrouped_eq]
  refine ⟨fun same => by rw [same], fun same => ?_⟩
  rw [← sequence_term s.sequence, same, sequence_term]

/-! ## Terms that are read as themselves -/

/-- That nowhere in a term a member is taken of the value of an operator.  Where one is, the term
would need brackets, and its text has none. -/
def Term.Grouped : Term → Prop
  | .atom _ => True
  | .dotted object _ => object.isUnary = false ∧ object.Grouped
  | .indexed object property => object.isUnary = false ∧ object.Grouped ∧ property.Grouped
  | .unary _ argument => argument.Grouped

/-- Where no member is taken of an operator there is nothing to regroup. -/
theorem Term.regrouped_of_grouped {t : Term} (grouped : t.Grouped) : t.regrouped = t := by
  induction t with
  | atom a => rfl
  | dotted object property ih =>
    rw [regrouped, ih grouped.2, under_of_not_unary grouped.1]
  | indexed object property ih ih' =>
    rw [regrouped, ih grouped.2.1, ih' grouped.2.2, under_of_not_unary grouped.1]
  | unary op argument ih => rw [regrouped, ih grouped]

/-- What is taken behind the operators leaves everything grouped. -/
theorem Term.grouped_under {t : Term} {act : Term → Term} (grouped : t.Grouped)
    (keeps : ∀ u : Term, u.isUnary = false → u.Grouped → (act u).Grouped) :
    (t.under act).Grouped := by
  induction t with
  | unary op argument ih => exact ih grouped
  | atom _ | dotted _ _ | indexed _ _ => exact keeps _ rfl grouped

/-- What a text is read as has its operators in front, so that it is grouped. -/
theorem Term.grouped_regrouped (t : Term) : t.regrouped.Grouped := by
  induction t with
  | atom a => trivial
  | dotted object property ih => exact grouped_under ih fun u other inside => ⟨other, inside⟩
  | indexed object property ih ih' =>
    exact grouped_under ih fun u other inside => ⟨other, inside, ih'⟩
  | unary op argument ih => exact ih

/-- **A term is read as itself just if no member is taken of an operator.**  Terms of this kind are
told apart by their texts. -/
theorem Term.regrouped_eq_self_iff {t : Term} : t.regrouped = t ↔ t.Grouped :=
  ⟨fun same => same ▸ t.grouped_regrouped, regrouped_of_grouped⟩

end Expression

end Decipher
