import Decipher.Json.Reader
import Decipher.Script.Shape
import Decipher.Solver.Basic

/-!
# Finding the solver in a script

The decipher call stands in the last statement but one of a named function of
three parameters, in one of two shapes: behind a guard, as the first of a
sequence of assignments, or as the initial value of a variable in the block of a
conditional.  `ofCall?` turns the call into a solver, `extract?` finds it in
a statement and `extractFromProgram?` in a program.
-/

namespace Decipher

/-- The last item of a list but one. -/
def penultimate? {α : Type} (items : List α) : Option α := items.reverse[1]?

namespace Json

/-- The item of an array at an index, `null` where there is none. -/
def item (index : Nat) : Json → Json
  | array items => items[index]?.getD null
  | _ => null

end Json

/-- A function and the name that a script gives it. -/
structure NamedFunction where
  name : String
  function : Json

namespace NamedFunction

/-- A node as a function under a name, if the name is a string. -/
def of? (name function : Json) : Option NamedFunction :=
  name.asString?.map fun name => ⟨name, function⟩

/-- A variable with a function for its initial value. -/
def ofDeclarator? (declarator : Json) : Option NamedFunction :=
  let init := declarator.get "init"
  if (init.get "type").same (.string "FunctionExpression") then
    of? (declarator.path ["id", "name"]) init
  else none

/-- The named functions that a statement may define, in order.  Only one shape of
statement can define several. -/
def inStatement (statement : Json) : List NamedFunction :=
  match Shape.candidatePattern.which statement with
  | none => []
  | some 0 =>
    let assignment := statement.get "expression"
    (of? (assignment.path ["left", "name"]) (assignment.get "right")).toList
  | some 1 => (of? (statement.path ["id", "name"]) statement).toList
  | some _ => ((statement.array? ["declarations"]).getD []).filterMap ofDeclarator?

/-- The call behind a guard: `guard && (x = T(..), ..)`. -/
def guardedCall? (statement : Json) : Option Json :=
  if Shape.logicalGuardPattern.accepts statement then
    some (((statement.path ["expression", "right", "expressions"]).item 0).get "right")
  else none

/-- The call in the block of a conditional: `if (..) { ..; var x = T(..); .. }`. -/
def conditionalCall? (statement : Json) : Option Json :=
  if Shape.ifBlockPattern.accepts statement then do
    let block ← statement.array? ["consequent", "body"]
    let declaration ← block.find? Shape.decipherDeclarationPattern.accepts
    return ((declaration.get "declarations").item 0).get "init"
  else none

/-- The decipher call in a function. -/
def decipherCall? (f : NamedFunction) : Option Json := do
  let params ← f.function.array? ["params"]
  guard (params.length = 3)
  let body ← f.function.array? ["body", "body"]
  let statement ← penultimate? body
  guardedCall? statement <|> conditionalCall? statement

end NamedFunction

namespace Solver

/-- The solver for a decipher call: its first argument is kept if others follow
it, and the parameter takes the place of the second.  The arguments behind these
only select tables and are dropped. -/
def ofCall? (sourceFunction : String) (call : Json) : Option Solver :=
  match call.array? ["arguments"] with
  | none => none
  | some [] => none
  | some [_] => some ⟨sourceFunction, call.get "callee", [.parameter]⟩
  | some (first :: _ :: _) =>
    some ⟨sourceFunction, call.get "callee", [.preserved first, .parameter]⟩

/-- The solver of a function that holds a decipher call. -/
def ofFunction? (f : NamedFunction) : Option Solver :=
  f.decipherCall?.bind (ofCall? f.name)

/-- The solver that a statement defines. -/
def extract? (statement : Json) : Option Solver :=
  (NamedFunction.inStatement statement).findSome? ofFunction?

/-- The first solver among the statements of a program. -/
def extractFromProgram? (program : Json) : Option Solver :=
  ((program.array? ["body"]).getD []).findSome? extract?

end Solver

/-- Why a text is not a program that could be searched. -/
inductive TreeError
  | invalid (message : String)
  | noBody

namespace TreeError

def message : TreeError → String
  | invalid text => "preprocessed tree is not valid JSON: " ++ text
  | noBody => "preprocessed tree has no top-level body"

end TreeError

namespace SolverSet

/-- The solvers of a program given as text. -/
def ofProgramText (text : String) : Except TreeError (Option SolverSet) :=
  match Json.parse text with
  | .error message => .error (.invalid message)
  | .ok tree =>
    match tree.array? ["body"] with
    | none => .error .noBody
    | some _ => .ok ((Solver.extractFromProgram? tree).map SolverSet.mk)

end SolverSet

end Decipher
