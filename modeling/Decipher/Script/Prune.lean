import Decipher.Json.Reader
import Decipher.Script.Shape

/-!
# Pruning a script

Pruning turns the syntax tree of a whole script into that of a short one: the
functions that wrap the script are opened up, and of the statements only those
that define functions stay.

A run can be cancelled from outside.  It looks at its flag before the first
statement and before every 256th after that, and gives up as soon as it sees the
flag raised; the flag is a function from the number of the look to what is seen
then.
-/

namespace Decipher

/-- Why a preprocessing run failed.  A transform may fail for reasons of its
own. -/
inductive PreprocessError
  | empty
  | tooLarge (size limit : Nat)
  | invalidTree (message : String)
  | notAProgram
  | cancelled
  | other (message : String)
  deriving DecidableEq

namespace PreprocessError

def message : PreprocessError → String
  | empty => "empty player script"
  | tooLarge size limit =>
    "player script too large: " ++ toString size ++ " bytes (limit " ++ toString limit ++ ")"
  | invalidTree message => "invalid syntax tree: " ++ message
  | notAProgram => "syntax tree root is not a Program"
  | cancelled => "preprocessing cancelled"
  | other message => message

end PreprocessError

namespace Prune

/-- Refuses a script that is empty or longer than `limit` bytes. -/
def checkSize (source : String) (limit : Nat) : Except PreprocessError Unit :=
  if source.utf8ByteSize = 0 then .error .empty
  else if limit < source.utf8ByteSize then .error (.tooLarge source.utf8ByteSize limit)
  else .ok ()

/-- The statements that stand for one statement: the body of a wrapping function,
and any other statement itself. -/
def unwrap (statement : Json) : List Json :=
  if Shape.wrapperPattern.accepts statement then
    let callee := statement.path ["expression", "callee"]
    let function :=
      if (callee.get "type").same (.string "MemberExpression") then callee.get "object"
      else callee
    (function.array? ["body", "body"]).getD [statement]
  else [statement]

/-- The statements of a script with its wrapping functions opened up. -/
def unwrapAll (body : List Json) : List Json := body.flatMap unwrap

/-- The number of statements from one look at the flag to the next. -/
def lookInterval : Nat := 256

/-- The statements that define functions.  `index` counts the statements already
passed. -/
def keepFunctions (raised : Nat → Bool) (index : Nat) :
    List Json → Except PreprocessError (List Json)
  | [] => .ok []
  | statement :: rest =>
    if index % lookInterval = 0 && raised (index / lookInterval) then .error .cancelled
    else
      match keepFunctions raised (index + 1) rest with
      | .error e => .error e
      | .ok kept =>
        if Shape.functionShapedPattern.accepts statement then .ok (statement :: kept)
        else .ok kept

/-- A program of the given statements. -/
def program (sourceType : Json) (body : List Json) : Json :=
  .object [("body", .array body), ("sourceType", sourceType), ("type", .string "Program")]

/-- The pruned form of a syntax tree. -/
def pruneTree (raised : Nat → Bool) (tree : Json) : Except PreprocessError Json :=
  if (tree.get "type").same (.string "Program") then
    match tree.array? ["body"] with
    | none => .error .notAProgram
    | some body =>
      (keepFunctions raised 0 (unwrapAll body)).map (program (tree.get "sourceType"))
  else .error .notAProgram

/-- Prunes a script given as the text of its syntax tree. -/
def run (limit : Nat) (raised : Nat → Bool) (source : String) :
    Except PreprocessError String := do
  checkSize source limit
  let tree ← (Json.parse source).mapError .invalidTree
  let pruned ← pruneTree raised tree
  return pruned.text

end Prune

end Decipher
