import Decipher.Proofs.Solver.Description

/-!
# Pruning loses no solver

Pruning opens the functions that wrap a script and drops every statement that does not define
a function.  Neither can hide a solver: a statement that is opened has none of its own, and a
statement that has one defines a function, although the two are asked for by templates that
were written apart.

* `Opens`: the statements of a script with its wrappers replaced by what they wrap.
* `keepFunctions_eq`: what is kept of them, if the run is not cancelled.
* `prune_keeps_solvers`: the first solver of a pruned script is the first one among the opened
  statements, and the first one of the script itself unless a wrapper comes before it.

## Two templates that must agree

Pruning asks which statements define a function, and the search asks which bind one of three
parameters to a name.  A solver is kept if the second implies the first, and this is a property of
two templates that were written apart (`Shape.definesFunction_of_which`, used by
`definesFunction_of_extract?`).  In the same way a wrapper must not define a function, or opening
it would lose it (`not_definesFunction_of_wraps`).

Equality with the search over the script itself needs a condition.  A wrapper may wrap a solver
that the script does not show, and if it comes first the pruned script has this one and not the one
that the script has.  So the last part of `prune_keeps_solvers` asks that no wrapper comes before
the first solver, and `wrapped_keeps_solvers` has a script of which only the pruned form shows one.
-/

namespace Decipher

open Shape Solver

namespace Prune

variable {statement : Json} {inner body hoisted : List Json}

/-! ## Opening wrappers -/

/-- The statements of a script with its wrappers replaced by what they wrap. -/
inductive Opens : List Json → List Json → Prop
  | nil : Opens [] []
  | wrapper (statement : Json) (inner rest hoisted : List Json) (wraps : Wraps statement inner)
      (others : Opens rest hoisted) : Opens (statement :: rest) (inner ++ hoisted)
  | plain (statement : Json) (rest hoisted : List Json) (plain : ∀ inner, ¬ Wraps statement inner)
      (others : Opens rest hoisted) : Opens (statement :: rest) (statement :: hoisted)

/-- The function that a wrapper runs, as it is read off the callee. -/
theorem Runs.eq {callee function : Json} (runs : Runs callee function)
    (kind : function.IsKind "FunctionExpression") :
    (if (callee.get "type").same (.string "MemberExpression") then callee.get "object"
      else callee) = function := by
  rcases runs_iff.mp runs with rfl | ⟨member, -, -, rfl⟩
  · rw [if_neg]
    rw [Json.same_string]
    exact fun member => nomatch kind.eq member
  · rw [if_pos (Json.same_string.mpr member)]

/-- What a wrapper stands for is the list of statements in its function, or the wrapper itself if
there is no list. -/
theorem unwrap_of_accepts {function : Json} (accepts : wrapperPattern.accepts statement = true)
    (runs : Runs (statement.path ["expression", "callee"]) function)
    (kind : function.IsKind "FunctionExpression") :
    unwrap statement = (function.array? ["body", "body"]).getD [statement] := by
  simp only [unwrap, accepts, if_true, Runs.eq runs kind]

theorem unwrap_of_wraps (wraps : Wraps statement inner) : unwrap statement = inner := by
  obtain ⟨function, runs, kind, block, is⟩ := wraps.function
  have accepts : wrapperPattern.accepts statement = true :=
    accepts_wrapperPattern.mpr ⟨wraps.kind, wraps.call, function, runs,
      accepts_bodyPattern.mpr ⟨kind, block, _, Json.get?_of_get_array is⟩⟩
  rw [unwrap_of_accepts accepts runs kind, Json.array?_eq_some.mpr is, Option.getD_some]

/-- A statement that wraps nothing stands for itself.  It may be accepted as a wrapper nevertheless,
if its function has a body that is no list. -/
theorem unwrap_of_plain (plain : ∀ inner, ¬ Wraps statement inner) :
    unwrap statement = [statement] := by
  by_cases accepts : wrapperPattern.accepts statement = true
  · obtain ⟨kind, call, function, runs, body⟩ := accepts_wrapperPattern.mp accepts
    obtain ⟨kind', block, -⟩ := accepts_bodyPattern.mp body
    rw [unwrap_of_accepts accepts runs kind']
    cases is : function.array? ["body", "body"] with
    | none => rfl
    | some inner =>
      exact absurd ⟨kind, call, function, runs, kind', block, Json.array?_eq_some.mp is⟩
        (plain inner)
  · rw [unwrap, if_neg accepts]

/-- A script is opened in one way, which is the way of the program. -/
theorem Opens.eq (opens : Opens body hoisted) : unwrapAll body = hoisted := by
  induction opens with
  | nil => rfl
  | wrapper statement inner rest hoisted wraps others ih =>
    rw [unwrapAll, List.flatMap_cons, unwrap_of_wraps wraps, ← ih, unwrapAll]
  | plain statement rest hoisted plain others ih =>
    rw [unwrapAll, List.flatMap_cons, unwrap_of_plain plain, ← ih, unwrapAll]
    rfl

/-! ## Keeping functions -/

/-- A run that is not cancelled keeps the statements that define functions, from whatever statement
it began. -/
theorem keepFunctions_eq {raised : Nat → Bool} {index : Nat} {kept : List Json}
    (done : keepFunctions raised index body = .ok kept) :
    kept = body.filter functionShapedPattern.accepts := by
  induction body generalizing index kept with
  | nil =>
    cases done
    rfl
  | cons statement rest ih =>
    rw [keepFunctions] at done
    split at done
    · cases done
    · split at done
      · cases done
      · rename_i others rest_done
        rw [ih rest_done] at done
        split at done <;> rename_i accepts <;> cases done
        · rw [List.filter_cons_of_pos accepts]
        · rw [List.filter_cons_of_neg accepts]

theorem keepFunctions_unraised (index : Nat) (body : List Json) :
    keepFunctions (fun _ => false) index body =
      .ok (body.filter functionShapedPattern.accepts) := by
  induction body generalizing index with
  | nil => rfl
  | cons statement rest ih =>
    rw [keepFunctions, ih]
    cases accepts : functionShapedPattern.accepts statement <;> simp [accepts]

/-! ## Solvers of statements -/

/-- A statement with a solver defines a function.  The templates for the two were written apart, so
that this is not for free: it is where a template that keeps too little would show. -/
theorem definesFunction_of_extract? (bears : extract? statement ≠ none) :
    DefinesFunction statement := by
  cases which : candidatePattern.which statement with
  | none => simp [extract?, NamedFunction.inStatement, which] at bears
  | some i => exact definesFunction_of_which which

/-- A statement that is opened defines no function itself. -/
theorem not_definesFunction_of_wraps (wraps : Wraps statement inner) :
    ¬ DefinesFunction statement := by
  intro defines
  cases defines with
  | declared kind => exact nomatch kind.eq wraps.kind
  | assigned kind assignment right => exact nomatch assignment.eq wraps.call
  | listed kind => exact nomatch kind.eq wraps.kind

theorem extract?_of_wraps (wraps : Wraps statement inner) : extract? statement = none := by
  by_contra bears
  exact not_definesFunction_of_wraps wraps (definesFunction_of_extract? bears)

/-- What is dropped has no solver, for a statement with a solver in it defines a function. -/
theorem findSome?_filter_functions (body : List Json) :
    (body.filter functionShapedPattern.accepts).findSome? extract? = body.findSome? extract? := by
  induction body with
  | nil => rfl
  | cons statement rest ih =>
    by_cases accepts : functionShapedPattern.accepts statement = true
    · rw [List.filter_cons_of_pos accepts, List.findSome?_cons, List.findSome?_cons, ih]
    · have barren : extract? statement = none := by
        by_contra bears
        exact accepts (accepts_functionShapedPattern.mpr (definesFunction_of_extract? bears))
      rw [List.filter_cons_of_neg accepts, ih, List.findSome?_cons, barren]

/-- What is opened had no solver that is lost. -/
theorem Opens.extract?_mem (opens : Opens body hoisted) (member : statement ∈ body)
    (bears : extract? statement ≠ none) : statement ∈ hoisted := by
  induction opens with
  | nil => exact member
  | wrapper statement' inner rest hoisted wraps others ih =>
    rcases List.mem_cons.mp member with rfl | later
    · exact absurd (extract?_of_wraps wraps) bears
    · exact List.mem_append_right _ (ih later)
  | plain statement' rest hoisted plain others ih =>
    rcases List.mem_cons.mp member with rfl | later
    · exact List.mem_cons_self
    · exact List.mem_cons_of_mem _ (ih later)

/-- Statements that are not opened stay where they are. -/
theorem unwrapAll_append {before after : List Json}
    (plain : ∀ s ∈ before, ∀ inner, ¬ Wraps s inner) :
    unwrapAll (before ++ after) = before ++ unwrapAll after := by
  induction before with
  | nil => rfl
  | cons s rest ih =>
    rw [List.forall_mem_cons] at plain
    rw [List.cons_append, unwrapAll, List.flatMap_cons, unwrap_of_plain plain.1, ← unwrapAll,
      ih plain.2]
    rfl

/-! ## Solvers of programs -/

/-- The first statement with a solver decides, whatever comes after it. -/
theorem findSome?_append_cons {before : List Json} (barren : ∀ s ∈ before, extract? s = none)
    (bears : extract? statement ≠ none) (after : List Json) :
    (before ++ statement :: after).findSome? extract? = extract? statement := by
  rw [List.findSome?_append, List.findSome?_eq_none_iff.mpr barren, Option.none_or,
    List.findSome?_cons]
  cases found : extract? statement with
  | none => exact absurd found bears
  | some solver => rfl

theorem extractFromProgram?_of_body {tree : Json} (is : tree.get "body" = .array body) :
    extractFromProgram? tree = body.findSome? extract? := by
  have array : tree.array? ["body"] = some body := Json.array?_eq_some.mpr is
  rw [extractFromProgram?, array, Option.getD_some]

theorem extractFromProgram?_program (sourceType : Json) (kept : List Json) :
    extractFromProgram? (program sourceType kept) = kept.findSome? extract? :=
  extractFromProgram?_of_body rfl

/-- A program that has a list of statements is pruned by running over the opened list.  Only the
flag can make this fail. -/
theorem pruneTree_of_program {tree : Json} (raised : Nat → Bool) (kind : tree.IsKind "Program")
    (is : tree.get "body" = .array body) :
    pruneTree raised tree =
      (keepFunctions raised 0 (unwrapAll body)).map (program (tree.get "sourceType")) := by
  have array : tree.array? ["body"] = some body := Json.array?_eq_some.mpr is
  rw [pruneTree, if_pos (Json.same_string.mpr kind), array]

/-- **Pruning loses no solver.**  A program can be pruned, and what a run that is not cancelled
makes of it has the first solver among the opened statements.  It has one if the program has
one, and the same unless a wrapper comes before the statement that this is found in. -/
theorem prune_keeps_solvers {tree : Json} (kind : tree.IsKind "Program")
    (is : tree.get "body" = .array body) (opens : Opens body hoisted) :
    (∃ pruned, pruneTree (fun _ => false) tree = .ok pruned) ∧
      ∀ raised pruned, pruneTree raised tree = .ok pruned →
        extractFromProgram? pruned = hoisted.findSome? extract? ∧
          (extractFromProgram? tree ≠ none → extractFromProgram? pruned ≠ none) ∧
          ∀ before statement after, body = before ++ statement :: after →
            (∀ s ∈ before, extract? s = none) → extract? statement ≠ none →
            (∀ s ∈ before, ∀ inner, ¬ Wraps s inner) →
            extractFromProgram? pruned = extractFromProgram? tree := by
  refine ⟨⟨program (tree.get "sourceType") (hoisted.filter functionShapedPattern.accepts), ?_⟩,
    fun raised pruned done => ?_⟩
  · rw [pruneTree_of_program _ kind is, opens.eq, keepFunctions_unraised]
    rfl
  rw [pruneTree_of_program raised kind is, opens.eq] at done
  have same : extractFromProgram? pruned = hoisted.findSome? extract? := by
    cases kept : keepFunctions raised 0 hoisted with
    | error e => cases kept ▸ done
    | ok statements =>
      rw [kept] at done
      cases done
      rw [extractFromProgram?_program, keepFunctions_eq kept, findSome?_filter_functions]
  rw [same, extractFromProgram?_of_body is]
  refine ⟨rfl, fun bears => ?_, ?_⟩
  · simp only [Ne, List.findSome?_eq_none_iff, not_forall] at bears ⊢
    obtain ⟨statement, member, bears⟩ := bears
    exact ⟨statement, opens.extract?_mem member bears, bears⟩
  · rintro before statement after rfl barren bears plain
    -- after) :: A statement that bears solvers is no wrapper, so it is not opened.
    have stays : unwrapAll (statement :: after) = statement :: unwrapAll after := by
      rw [unwrapAll, List.flatMap_cons, unwrap_of_plain fun inner wraps =>
        bears (extract?_of_wraps wraps)]
      rfl
    rw [← opens.eq, unwrapAll_append plain, stays, findSome?_append_cons barren bears,
      findSome?_append_cons barren bears]

/-- `(function () { inner })()`. -/
def wrapper (inner : List Json) : Json :=
  .object
    [("expression", .object
      [("arguments", .array []),
       ("callee", .object
        [("body", .object [("body", .array inner), ("type", .string "BlockStatement")]),
         ("params", .array []), ("type", .string "FunctionExpression")]),
       ("type", .string "CallExpression")]),
     ("type", .string "ExpressionStatement")]

theorem wrapper_wraps (inner : List Json) : Wraps (wrapper inner) inner :=
  ⟨rfl, rfl, _, .directly _, rfl, rfl, rfl⟩

/-- The solver of a wrapped script, which the script itself does not show. -/
theorem wrapped_keeps_solvers :
    ∃ tree pruned, tree.IsKind "Program" ∧ extractFromProgram? tree = none ∧
      pruneTree (fun _ => false) tree = .ok pruned ∧
      extractFromProgram? pruned = some (solverXy three) := by
  have opens : Opens [wrapper [functionF [three, decodedB]]] [functionF [three, decodedB]] :=
    .wrapper _ _ [] [] (wrapper_wraps _) .nil
  have kind : (program .null [wrapper [functionF [three, decodedB]]]).IsKind "Program" := rfl
  obtain ⟨⟨pruned, done⟩, keeps⟩ := prune_keeps_solvers kind rfl opens
  exact ⟨_, pruned, kind, rfl, done, (keeps _ pruned done).1⟩

end Prune

end Decipher
