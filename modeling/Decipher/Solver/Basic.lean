import Decipher.Script.Expression

/-!
# Solvers

A solver is a function of one parameter that hands its text to the decipher
transform of a script: `sig => T(sig)` or `sig => T(first, sig)`.  It is kept as
the callee and the arguments of that call, with the name of the function that the
call was found in, and is written in three ways: as a syntax tree (`toTree`), as
source text (`sourceText?`) and as the entry that caches hold (`toEntry`).
-/

namespace Decipher

/-- The name of the parameter of every solver. -/
def solverParameter : String := "sig"

/-- An argument of the call in a solver: the parameter, or an argument of the
call that was found, unchanged. -/
inductive Argument
  | parameter
  | preserved (node : Json)

structure Solver where
  /-- The name of the function in which the call was found. -/
  sourceFunction : String
  callee : Json
  arguments : List Argument

/-- What a script yields: the solver for its signatures. -/
structure SolverSet where
  signature : Solver

/-- A name as a syntax tree. -/
def identifierNode (name : String) : Json :=
  .object [("name", .string name), ("type", .string "Identifier")]

namespace Argument

/-- An argument as a syntax tree. -/
def toTree : Argument → Json
  | parameter => identifierNode solverParameter
  | preserved node => node

/-- An argument as source text. -/
def sourceText? : Argument → Option String
  | parameter => some solverParameter
  | preserved node => Expression.sourceText? node

/-- An argument as caches hold it. -/
def toEntry : Argument → Json
  | parameter => .object [("kind", .string "param")]
  | preserved node => .object [("kind", .string "preserved"), ("node", node)]

end Argument

namespace Solver

/-- The number of arguments of the call. -/
def arity (s : Solver) : Nat := s.arguments.length

/-- The callee as source text. -/
def calleeText? (s : Solver) : Option String := Expression.sourceText? s.callee

/-- A solver as the syntax tree of an arrow function. -/
def toTree (s : Solver) : Json :=
  .object
    [("async", .bool false),
     ("body", .object
      [("arguments", .array (s.arguments.map Argument.toTree)),
       ("callee", s.callee),
       ("optional", .bool false),
       ("type", .string "CallExpression")]),
     ("expression", .bool true),
     ("generator", .bool false),
     ("params", .array [identifierNode solverParameter]),
     ("type", .string "ArrowFunctionExpression")]

/-- A solver as the source text of an arrow function, if its parts are of the
kinds that can be written. -/
def sourceText? (s : Solver) : Option String := do
  let callee ← s.calleeText?
  let arguments ← s.arguments.mapM Argument.sourceText?
  return solverParameter ++ " => " ++ callee ++ "(" ++ ", ".intercalate arguments ++ ")"

/-- A solver as caches hold it. -/
def toEntry (s : Solver) : Json :=
  .object
    [("source_function", .string s.sourceFunction),
     ("callee", s.callee),
     ("args", .array (s.arguments.map Argument.toEntry))]

end Solver

namespace SolverSet

/-- A set of solvers as caches hold it. -/
def toEntry (s : SolverSet) : Json := .object [("sig", s.signature.toEntry)]

end SolverSet

end Decipher
