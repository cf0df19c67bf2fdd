import Decipher.Proofs.Solver.Description

/-!
# Where the parameter goes

A solver is to hand its parameter to the transform where the script hands over decoded text, with
what stands before it kept.  The position of the decoded text is told by the template of the call;
the solver is built by counting arguments.

The two agree unless the decoded text comes first and further arguments follow it
(`replacesText_iff`).  In that case the call that decodes the text is taken for a literal to be
kept, and the solver mentions a variable that it does not have (`not_replacesText`).

## Why counting is not enough

The template of a call has two alternatives for its arguments: a literal and the decoded text, or
the decoded text.  An array of arguments is accepted if it starts with what an alternative has, so
that under the second one more arguments may follow.  A solver for several arguments keeps the
first of them and puts the parameter second, which is right for the first alternative alone.

`replacesText_of_builds` is the comparison for one call, by the two alternatives.  For what the
search finds, `replacesText_iff` adds that the position is unique, so that "the place of the
decoded text" means something.
-/

namespace Decipher

open Shape

namespace Shape

/-- The decoded text has one position.  So it makes sense to say of a solver that it replaces the
text. -/
theorem DecodesAt.eq {arguments : List Json} {position other : Nat}
    (decodes : DecodesAt arguments position) (too : DecodesAt arguments other) :
    position = other := by
  cases decodes with
  | front text rest decodes =>
    cases too with
    | front => rfl
    | second _ _ _ literal => exact nomatch decodes.kind.eq literal
  | second first text rest literal decodes =>
    cases too with
    | front _ _ decodes' => exact nomatch decodes'.kind.eq literal
    | second => rfl

end Shape

/-- That a solver puts its parameter in the place of the decoded text, and keeps nothing but
literals. -/
structure ReplacesText (solver : Solver) (position : Nat) : Prop where
  parameter : ∀ i : Nat, solver.arguments[i]? = some .parameter ↔ i = position
  literals : ∀ node, .preserved node ∈ solver.arguments → node.IsKind "Literal"

/-- That decoded text comes first and further arguments follow it.  The search keeps the first
argument then, and with it the very text that was to be replaced. -/
def TextLeads (arguments : List Json) (position : Nat) : Prop :=
  position = 0 ∧ 1 < arguments.length

/-- A parameter alone stands at the front, and nothing is kept beside it. -/
theorem replacesText_sole (name : String) (callee : Json) :
    ReplacesText ⟨name, callee, [.parameter]⟩ 0 := by
  refine ⟨fun i => ?_, fun node member => ?_⟩
  · cases i <;> simp
  · simp at member

/-- A parameter behind a literal stands where the decoded text does if that is the second argument.
-/
theorem replacesText_second (name : String) (callee : Json) {first : Json}
    (literal : first.IsKind "Literal") :
    ReplacesText ⟨name, callee, [.preserved first, .parameter]⟩ 1 := by
  refine ⟨fun i => ?_, fun node member => ?_⟩
  · match i with
    | 0 => simp
    | 1 => simp
    | i + 2 => simp
  · simp only [List.mem_cons, Argument.preserved.injEq, reduceCtorEq, List.not_mem_nil,
      or_false] at member
    rwa [member]

/-- The solver counts arguments, and the template looks at what they are.  With the decoded text at
the front and others behind it the count comes to the second argument, which the template did not
look at. -/
theorem replacesText_of_builds {binding : Binding} {call : Json} {solver : Solver}
    {arguments : List Json} {position : Nat} (builds : binding.Builds call solver)
    (are : call.get "arguments" = .array arguments) (decodes : DecodesAt arguments position) :
    ReplacesText solver position ↔ ¬ TextLeads arguments position := by
  obtain ⟨name, callee, _⟩ := solver
  obtain ⟨-, -, first, rest, are', rfl⟩ := builds
  rw [are, Json.array.injEq] at are'
  subst are'
  cases decodes with
  | front text rest decodes =>
    cases rest with
    | nil => simpa [TextLeads] using replacesText_sole name callee
    | cons second others =>
      -- The call that decodes the text is kept, and it is no literal.
      have not : ¬ ReplacesText ⟨name, callee, [.preserved first, .parameter]⟩ 0 := fun r =>
        nomatch decodes.kind.eq (r.literals first (by simp))
      simpa [TextLeads] using not
  | second first text rest literal decodes =>
    simpa [TextLeads] using replacesText_second name callee literal

/-- **The parameter takes the place of the decoded text** unless this comes first and further
arguments follow it, and only then. -/
theorem replacesText_iff {statement call : Json} {solver : Solver}
    (yields : Yields statement call solver) :
    Solver.extract? statement = some solver ∧
      ∃ arguments position, call.get "arguments" = .array arguments ∧
        DecodesAt arguments position ∧
        (∀ other, DecodesAt arguments other → other = position) ∧
        (ReplacesText solver position ↔ ¬ TextLeads arguments position) := by
  refine ⟨extract?_eq_some_iff_yields.mpr ⟨call, yields⟩, ?_⟩
  obtain ⟨before, binding, after, binds, none, qualifies, builds⟩ := yields
  obtain ⟨arguments, position, are, decodes⟩ := qualifies.holds.isDecipherCall.arguments
  exact ⟨arguments, position, are, decodes, fun other too => too.eq decodes,
    replacesText_of_builds builds are decodes⟩

/-! ## Two calls -/

/-- `Xy(3, decodeURIComponent(b))` becomes `Xy(3, sig)`. -/
theorem literalFirst_replacesText :
    Yields (functionF [three, decodedB]) (callXy [three, decodedB]) (solverXy three) ∧
      ReplacesText (solverXy three) 1 := by
  have second : DecodesAt [three, decodedB] 1 := .second three decodedB [] rfl decodes_decodedB
  have yields := functionF_yields second
  refine ⟨yields, ?_⟩
  obtain ⟨-, _, _, ⟨⟩, -, unique, replaces⟩ := replacesText_iff yields
  cases unique 1 second
  exact replaces.mpr fun leads => nomatch leads.1

/-- `Xy(decodeURIComponent(b), 3)` becomes `Xy(decodeURIComponent(b), sig)`. -/
theorem not_replacesText :
    ¬ ∀ statement call solver arguments position, Yields statement call solver →
      call.get "arguments" = .array arguments → DecodesAt arguments position →
        ReplacesText solver position := by
  intro all
  have front : DecodesAt [decodedB, three] 0 := .front decodedB [three] decodes_decodedB
  have replaces := all _ _ _ _ _ (functionF_yields front) rfl front
  exact nomatch decodes_decodedB.kind.eq (replaces.literals decodedB List.mem_cons_self)

end Decipher
