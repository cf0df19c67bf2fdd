import Decipher.Proofs.Script.Grouping
import Decipher.Solver.Basic

/-!
# What the text of a solver tells

The text of a solver is that of its callee and of the argument that it keeps, apart from what is
the same in all solvers.  Both can be read off it, up to the grouping of operators and accesses:
brackets are left out where the member is taken of the value of an operator, so that `(-a).b` is
written like `-(a.b)`.

* `Solver.toList_sourceText`: the text of a solver, made of the sequences of its parts.
* `sourceTexts_eq_iff`: which expressions, and which solvers, have one text.
* `not_sourceText_injective`: two expressions that do.

## How a text falls into parts

The text of a solver is that of its callee, a bracket, the text of the argument that is kept if
there is one, and a tail that only depends on whether there is one.  To read the parts off it one
has to know where each of them ends.  This is what `EndsTerm` is for: a text ends a term if it
cannot be read as more of it, and both the bracket and the tail are such texts
(`Solver.endsTerm_call`, `Solver.endsTerm_arguments`).  With that, sequences of atoms can be
cancelled from the left, and two texts are the same just if their sequences are.

A sequence is what is left of a term when its grouping is forgotten, so that two terms with one
sequence need not be the same.  They are if none of them has an operator as the object of a member;
this is the only place where the text would need brackets and has none.
-/

namespace Decipher

open Expression

namespace Solver

/-- That a solver passes its parameter alone, or behind an argument that is kept.  These are the
only two forms that the search builds. -/
inductive DepictsArguments : List Argument → Option Term → Prop
  | alone : DepictsArguments [.parameter] none
  | behind {node : Json} {t : Term} (depicts : Depicts node t) :
    DepictsArguments [.preserved node, .parameter] (some t)

/-- The parameter as an atom. -/
def parameterAtom : Atom := .name ⟨solverParameter, rfl⟩

/-- The arguments of a call of one or two, with what is written behind the first.  That is told
apart from the first argument, since the reading of terms ends there. -/
def argumentsSequence : Option Term → Sequence × List Char
  | none => (.atom parameterAtom .none, [')'])
  | some t => (t.sequence, ", sig)".toList)

/-- What follows the first argument cannot be read as more of it: it is a bracket or a comma. -/
theorem endsTerm_arguments (kept : Option Term) : EndsTerm (argumentsSequence kept).2 := by
  cases kept <;> exact ⟨rfl, by decide, by decide⟩

/-- The text of the arguments of a solver, up to the closing bracket. -/
theorem toList_arguments {arguments : List Argument} {kept : Option Term}
    (depicts : DepictsArguments arguments kept) :
    ∃ texts, arguments.mapM Argument.sourceText? = some texts ∧
      (", ".intercalate texts).toList ++ [')'] =
        (argumentsSequence kept).1.write (argumentsSequence kept).2 := by
  cases depicts with
  | alone => exact ⟨[solverParameter], rfl, rfl⟩
  | @behind node t depicts =>
    have text := sourceText?_of_depicts depicts
    refine ⟨[t.text, solverParameter], by simp [Argument.sourceText?, text], ?_⟩
    have joined : ", ".intercalate [t.text, solverParameter] =
        t.text ++ ", " ++ solverParameter := rfl
    rw [argumentsSequence, ← toList_text, joined]
    simp [solverParameter]

/-- **The text of a solver.**  There always is one, and it is the arrow, the callee and the
bracketed arguments, with nothing between the callee and its bracket. -/
theorem toList_sourceText {s : Solver} {callee : Term} {kept : Option Term}
    (depicts : Depicts s.callee callee) (arguments : DepictsArguments s.arguments kept) :
    ∃ text, s.sourceText? = some text ∧ text.toList =
      "sig => ".toList ++ callee.sequence.write ('(' ::
        (argumentsSequence kept).1.write (argumentsSequence kept).2) := by
  obtain ⟨texts, all, chars⟩ := toList_arguments arguments
  refine ⟨_, by rw [sourceText?, calleeText?, sourceText?_of_depicts depicts, all]; rfl, ?_⟩
  rw [← toList_text, ← chars]
  simp [solverParameter]

/-- The bracket that opens the arguments cannot be read as more of the callee.  Calls are no terms,
and so a callee that is a term ends before it. -/
theorem endsTerm_call (kept : Option Term) :
    EndsTerm ('(' :: (argumentsSequence kept).1.write (argumentsSequence kept).2) :=
  ⟨rfl, by decide, by decide⟩

/-- What is written behind the first argument tells whether it is the parameter.  So a solver that
keeps an argument is never written like one that keeps none. -/
theorem argumentsSequence_injective {kept kept' : Option Term}
    (same : argumentsSequence kept = argumentsSequence kept') :
    kept.map Term.sequence = kept'.map Term.sequence := by
  cases kept with
  | none =>
    cases kept' with
    | none => rfl
    | some t' => exact nomatch (congrArg Prod.snd same : [')'] = ", sig)".toList)
  | some t =>
    cases kept' with
    | none => exact nomatch (congrArg Prod.snd same : ", sig)".toList = [')'])
    | some t' => exact congrArg some (congrArg Prod.fst same)

theorem argumentsSequence_congr {kept kept' : Option Term}
    (same : kept.map Term.sequence = kept'.map Term.sequence) :
    argumentsSequence kept = argumentsSequence kept' := by
  cases kept <;> cases kept' <;> simp_all [argumentsSequence]

/-- Two sequences are the same just if the terms are, once they are regrouped. -/
theorem map_sequence_eq_iff {kept kept' : Option Term} :
    kept.map Term.sequence = kept'.map Term.sequence ↔
      kept.map Term.regrouped = kept'.map Term.regrouped := by
  cases kept <;> cases kept' <;> simp [← text_eq_iff_sequence, text_eq_iff]

/-- **Solvers have one text just if their parts are read as one.**  The callee ends where the
arguments begin, so that the text of a solver falls into those of its parts in one way only. -/
theorem sourceText?_eq_iff {a b : Solver} {callee callee' : Term} {kept kept' : Option Term}
    (calls : Depicts a.callee callee) (passes : DepictsArguments a.arguments kept)
    (calls' : Depicts b.callee callee') (passes' : DepictsArguments b.arguments kept') :
    a.sourceText? = b.sourceText? ↔
      callee.regrouped = callee'.regrouped ∧
        kept.map Term.regrouped = kept'.map Term.regrouped := by
  obtain ⟨text, is, chars⟩ := toList_sourceText calls passes
  obtain ⟨text', is', chars'⟩ := toList_sourceText calls' passes'
  rw [is, is', Option.some.injEq, ← String.toList_inj, chars, chars', List.append_cancel_left_eq,
    ← text_eq_iff, text_eq_iff_sequence, ← map_sequence_eq_iff]
  constructor
  · intro same
    obtain ⟨head, rest⟩ := callee.sequence.write_injective callee'.sequence (endsTerm_call kept)
      (endsTerm_call kept') same
    obtain ⟨first, behind⟩ := (argumentsSequence kept).1.write_injective (argumentsSequence kept').1
      (endsTerm_arguments kept) (endsTerm_arguments kept') (List.cons.inj rest).2
    exact ⟨head, argumentsSequence_injective (Prod.ext first behind)⟩
  · rintro ⟨head, arguments⟩
    rw [head, argumentsSequence_congr arguments]

end Solver

/-! ## Expressions with one text -/

/-- **Which expressions have one text.**  An expression has a text, and two have the same one just
if they are read as one expression: where no member is taken of the value of an operator, an
expression is read as itself, so that two such with one text are the same.  What the text of a
solver tells of its callee and of the argument that it keeps is the same. -/
theorem sourceTexts_eq_iff {v w : Json} {s t : Term} (first : Depicts v s) (second : Depicts w t) :
    sourceText? v = some s.text ∧
      (sourceText? v = sourceText? w ↔ s.regrouped = t.regrouped) ∧
      (s.regrouped = s ↔ s.Grouped) ∧
      (s.Grouped → t.Grouped → sourceText? v = sourceText? w → s = t) ∧
      ∀ a b : Solver, a.callee = v → b.callee = w → ∀ kept kept' : Option Term,
        Solver.DepictsArguments a.arguments kept → Solver.DepictsArguments b.arguments kept' →
        (∃ text, a.sourceText? = some text) ∧
          (a.sourceText? = b.sourceText? ↔ s.regrouped = t.regrouped ∧
            kept.map Term.regrouped = kept'.map Term.regrouped) := by
  have same : sourceText? v = sourceText? w ↔ s.regrouped = t.regrouped := by
    rw [sourceText?_of_depicts first, sourceText?_of_depicts second, Option.some.injEq, text_eq_iff]
  refine ⟨sourceText?_of_depicts first, same, Term.regrouped_eq_self_iff, ?_, ?_⟩
  · intro grouped grouped' texts
    rw [← Term.regrouped_of_grouped grouped, same.mp texts, Term.regrouped_of_grouped grouped']
  · rintro a b rfl rfl kept kept' passes passes'
    obtain ⟨text, is, -⟩ := Solver.toList_sourceText first passes
    exact ⟨⟨text, is⟩, Solver.sourceText?_eq_iff first passes second passes'⟩

/-! ## An operator and a member -/

/-- `object.property`, or `object[property]`. -/
def memberNode (computed : Bool) (object property : Json) : Json :=
  .object
    [("computed", .bool computed), ("object", object), ("property", property),
     ("type", .string "MemberExpression")]

/-- `-argument`. -/
def minusNode (argument : Json) : Json :=
  .object
    [("argument", argument), ("operator", .string "-"), ("type", .string "UnaryExpression")]

def nameA : Name := ⟨"a", rfl⟩

def nameB : Name := ⟨"b", rfl⟩

theorem depicts_identifierNode (n : Name) :
    Depicts (identifierNode n.text) (.atom (.name n)) := .name ⟨rfl, rfl⟩

/-- `(-a).b`, a member of what the operator makes.  Its text has no brackets around `-a`. -/
theorem depicts_memberOfMinus :
    Depicts (memberNode false (minusNode (identifierNode "a")) (identifierNode "b"))
      (.dotted (.unary .minus (.atom (.name nameA))) nameB) :=
  .dotted rfl rfl (.unary rfl rfl (depicts_identifierNode nameA)) ⟨rfl, rfl⟩

/-- `-(a.b)`, the operator in front of a member.  Its text needs no brackets, and has none. -/
theorem depicts_minusOfMember :
    Depicts (minusNode (memberNode false (identifierNode "a") (identifierNode "b")))
      (.unary .minus (.dotted (.atom (.name nameA)) nameB)) :=
  .unary rfl rfl (.dotted rfl rfl (depicts_identifierNode nameA) ⟨rfl, rfl⟩)

/-- `-(a.b)` and `a[-b]` have different texts, and solvers that call them have. -/
theorem minusOfMember_ne :
    sourceText? (minusNode (memberNode false (identifierNode "a") (identifierNode "b"))) ≠
      sourceText? (memberNode true (identifierNode "a") (minusNode (identifierNode "b"))) := by
  have indexed : Depicts (memberNode true (identifierNode "a") (minusNode (identifierNode "b")))
      (.indexed (.atom (.name nameA)) (.unary .minus (.atom (.name nameB)))) :=
    .indexed rfl rfl (depicts_identifierNode nameA) (.unary rfl rfl (depicts_identifierNode nameB))
  obtain ⟨-, -, -, tells, -⟩ := sourceTexts_eq_iff depicts_minusOfMember indexed
  exact fun same => nomatch tells ⟨rfl, trivial⟩ ⟨rfl, trivial, trivial⟩ same

/-- `(-a).b` and `-(a.b)` have one. -/
theorem not_sourceText_injective :
    ¬ ∀ v w s t, Depicts v s → Depicts w t → sourceText? v = sourceText? w → s = t := by
  intro all
  have same := all _ _ _ _ depicts_memberOfMinus depicts_minusOfMember (by
    rw [sourceText?_of_depicts depicts_memberOfMinus, sourceText?_of_depicts depicts_minusOfMember]
    rfl)
  cases same

end Decipher
