import Decipher.Proofs.Script.Prune

/-!
# Pruning twice

What pruning keeps it would keep again: a statement that defines a function is no wrapper, so a
second run opens nothing and drops nothing.  A wrapper inside a wrapper does not come to light in
the second run either, because the first one, which opens the outer one only, drops the inner one.

* `opens_unwrapAll`: every script has an opened form.
* `wrapperPattern_of_definesFunction`: the two templates exclude each other.
* `pruneTree_idempotent`: what a run makes of a program, and that another run changes nothing.

The two templates for wrappers and for functions exclude each other at the kind of an expression: a
wrapper is a call, and a statement that defines a function is a declaration, a list of variables or
an assignment.  That is all that idempotence rests on.  A template of statements to keep that also
accepted calls would let wrappers through, and a second run would open what the first one kept.
-/

namespace Decipher

open Shape

namespace Prune

variable {statement : Json} {body hoisted : List Json}

/-- The statements of a script can be opened, whatever they are.  What is no wrapper stands for
itself. -/
theorem opens_unwrapAll (body : List Json) : Opens body (unwrapAll body) := by
  induction body with
  | nil => exact .nil
  | cons statement rest ih =>
    rw [unwrapAll, List.flatMap_cons, ← unwrapAll]
    by_cases wraps : ∃ inner, Wraps statement inner
    · obtain ⟨inner, wraps⟩ := wraps
      rw [unwrap_of_wraps wraps]
      exact .wrapper statement inner rest _ wraps ih
    · have plain : ∀ inner, ¬ Wraps statement inner := not_exists.mp wraps
      rw [unwrap_of_plain plain]
      exact .plain statement rest _ plain ih

/-- A statement that defines a function is no wrapper, not even one without statements to open.  So
whatever the filter keeps is nothing that a second run would open. -/
theorem wrapperPattern_of_definesFunction (defines : DefinesFunction statement) :
    wrapperPattern.accepts statement = false := by
  rw [Bool.eq_false_iff]
  intro accepts
  obtain ⟨kind, call, -⟩ := accepts_wrapperPattern.mp accepts
  cases defines with
  | declared kind' => exact nomatch kind.eq kind'
  | assigned kind' assignment right => exact nomatch call.eq assignment
  | listed kind' => exact nomatch kind.eq kind'

/-- Statements that are no wrappers are not opened. -/
theorem opens_of_plain {statements : List Json}
    (plain : ∀ s ∈ statements, ∀ inner, ¬ Wraps s inner) : Opens statements statements := by
  induction statements with
  | nil => exact .nil
  | cons s rest ih =>
    rw [List.forall_mem_cons] at plain
    exact .plain s rest rest plain.1 (ih plain.2)

/-- Statements that define functions are their own opened form. -/
theorem opens_of_definesFunction {kept : List Json} (define : ∀ s ∈ kept, DefinesFunction s) :
    Opens kept kept :=
  opens_of_plain fun s member _ wraps => not_definesFunction_of_wraps wraps (define s member)

/-- A run over a program that is not cancelled. -/
theorem pruneTree_of_opens {tree : Json} (kind : tree.IsKind "Program")
    (is : tree.get "body" = .array body) (opens : Opens body hoisted) :
    pruneTree (fun _ => false) tree =
      .ok (program (tree.get "sourceType") (hoisted.filter functionShapedPattern.accepts)) := by
  rw [pruneTree_of_program _ kind is, opens.eq, keepFunctions_unraised]
  rfl

/-- A program of statements that define functions is left as it is.  Every pruned program is one. -/
theorem pruneTree_program {kept : List Json} (define : ∀ s ∈ kept, DefinesFunction s)
    (sourceType : Json) :
    pruneTree (fun _ => false) (program sourceType kept) = .ok (program sourceType kept) := by
  have all : kept.filter functionShapedPattern.accepts = kept :=
    List.filter_eq_self.mpr fun s member => accepts_functionShapedPattern.mpr (define s member)
  have kind : (program sourceType kept).IsKind "Program" := rfl
  rw [pruneTree_of_opens kind rfl (opens_of_definesFunction define), all]
  rfl

/-- **Pruning twice is pruning once.**  A program is pruned to those of its opened statements, in
their order, that define functions.  None of these is a wrapper, so another run opens none of
them, keeps them all, and leaves the pruned program as it is. -/
theorem pruneTree_idempotent {tree : Json} (kind : tree.IsKind "Program")
    (is : tree.get "body" = .array body) :
    ∃ hoisted kept pruned, Opens body hoisted ∧
      kept = hoisted.filter functionShapedPattern.accepts ∧
      pruneTree (fun _ => false) tree = .ok pruned ∧
      pruned.IsKind "Program" ∧ pruned.get "body" = .array kept ∧
      (∀ s ∈ kept, DefinesFunction s ∧ wrapperPattern.accepts s = false) ∧
      Opens kept kept ∧
      pruneTree (fun _ => false) pruned = .ok pruned := by
  have opens := opens_unwrapAll body
  have define : ∀ s ∈ (unwrapAll body).filter functionShapedPattern.accepts, DefinesFunction s :=
    fun s member => accepts_functionShapedPattern.mp (List.mem_filter.mp member).2
  exact ⟨_, _, _, opens, rfl, pruneTree_of_opens kind is opens, rfl, rfl,
    fun s member => ⟨define s member, wrapperPattern_of_definesFunction (define s member)⟩,
    opens_of_definesFunction define, pruneTree_program define _⟩

/-- The inner of two wrappers is dropped with what it wraps, and nothing is left to open. -/
theorem nested_idempotent :
    (program .null [wrapper [wrapper [functionF []], functionF [three]]]).IsKind "Program" ∧
      ∃ pruned,
        pruneTree (fun _ => false)
            (program .null [wrapper [wrapper [functionF []], functionF [three]]]) = .ok pruned ∧
          pruned.get "body" = .array [functionF [three]] ∧
          pruneTree (fun _ => false) pruned = .ok pruned := by
  have opens : Opens [wrapper [wrapper [functionF []], functionF [three]]]
      [wrapper [functionF []], functionF [three]] :=
    .wrapper _ _ [] [] (wrapper_wraps _) .nil
  have kind :
      (program .null [wrapper [wrapper [functionF []], functionF [three]]]).IsKind "Program" := rfl
  obtain ⟨hoisted, kept, pruned, opens', rfl, once, -, is, -, -, twice⟩ :=
    pruneTree_idempotent kind rfl
  rw [← opens'.eq, opens.eq] at is
  have dropped : functionShapedPattern.accepts (wrapper [functionF []]) = false :=
    Bool.eq_false_iff.mpr fun accepts =>
      not_definesFunction_of_wraps (wrapper_wraps _) (accepts_functionShapedPattern.mp accepts)
  have stays : functionShapedPattern.accepts (functionF [three]) = true :=
    accepts_functionShapedPattern.mpr (.declared rfl)
  rw [List.filter_cons_of_neg (by simp [dropped]), List.filter_cons_of_pos stays,
    List.filter_nil] at is
  exact ⟨kind, pruned, once, is, twice⟩

end Prune

end Decipher
