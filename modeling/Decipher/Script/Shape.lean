import Decipher.Pattern.Template

/-!
# Shapes of statements

The syntax trees of player scripts are JSON, one object for each node, with its
kind under `type`.  This module holds the templates of the statements that the
search looks at: functions of three parameters in the three ways in which a
script defines them, the two shapes in which such a function calls the decipher
transform, and the statements that pruning keeps or opens up.

The text decoder marks the call: the transform is handed its text through it.
-/

namespace Decipher

namespace Shape

/-- The function whose call marks the argument that holds the ciphertext. -/
def textDecoder : String := "decodeURIComponent"

/-! ## Building blocks -/

/-- A node of a kind of which nothing else is asked. -/
def kind (name : String) : Json := .object [("type", .string name)]

/-- The template of anything. -/
def anything : Json := .object []

/-- One of several templates. -/
def anyOf (alternatives : List Json) : Json := .object [(Template.orKey, .array alternatives)]

/-- Some child with a template. -/
def anyChild (template : Json) : Json := .object [(Template.anyKey, template)]

/-- `decodeURIComponent(x)`. -/
def decodeCall : Json :=
  .object
    [("arguments", .array [kind "Identifier"]),
     ("callee", .object [("name", .string textDecoder), ("type", .string "Identifier")]),
     ("type", .string "CallExpression")]

/-- `T(literal, decodeURIComponent(x))` or `T(decodeURIComponent(x))`, for a name
or a member expression `T`. -/
def decipherCall : Json :=
  .object
    [("arguments", anyOf [.array [kind "Literal", decodeCall], .array [decodeCall]]),
     ("callee", anyOf [kind "Identifier", kind "MemberExpression"]),
     ("type", .string "CallExpression")]

/-- Three parameters of any form. -/
def threeParameters : Json := .array [anything, anything, anything]

/-- A function expression of three parameters or more. -/
def functionOfThree : Json :=
  .object [("params", threeParameters), ("type", .string "FunctionExpression")]

/-! ## Templates -/

/-- A named function of at least three parameters: assigned to a name, declared,
or the initial value of a variable.  The order tells the three apart. -/
def candidate : Json :=
  anyOf
    [.object
      [("expression", .object
        [("left", kind "Identifier"), ("operator", .string "="), ("right", functionOfThree),
         ("type", .string "AssignmentExpression")]),
       ("type", .string "ExpressionStatement")],
     .object
      [("id", kind "Identifier"), ("params", threeParameters),
       ("type", .string "FunctionDeclaration")],
     .object
      [("declarations", anyChild (.object
        [("id", kind "Identifier"), ("init", functionOfThree),
         ("type", .string "VariableDeclarator")])),
       ("type", .string "VariableDeclaration")]]

/-- `guard && (x = T(..), ..)`. -/
def logicalGuard : Json :=
  .object
    [("expression", .object
      [("operator", .string "&&"),
       ("right", .object
        [("expressions", .array [.object
          [("left", kind "Identifier"), ("operator", .string "="), ("right", decipherCall),
           ("type", .string "AssignmentExpression")]]),
         ("type", .string "SequenceExpression")]),
       ("type", .string "LogicalExpression")]),
     ("type", .string "ExpressionStatement")]

/-- `if (..) { .. }`. -/
def ifBlock : Json :=
  .object
    [("consequent", .object [("body", anything), ("type", .string "BlockStatement")]),
     ("type", .string "IfStatement")]

/-- `var x = T(..)`. -/
def decipherDeclaration : Json :=
  .object
    [("declarations", .array [.object
      [("init", decipherCall), ("type", .string "VariableDeclarator")]]),
     ("type", .string "VariableDeclaration")]

/-- A statement that defines a function, of whatever parameters. -/
def functionShaped : Json :=
  anyOf
    [kind "FunctionDeclaration",
     .object
      [("expression", .object
        [("right", kind "FunctionExpression"), ("type", .string "AssignmentExpression")]),
       ("type", .string "ExpressionStatement")],
     .object
      [("declarations", anyChild (.object
        [("init", kind "FunctionExpression"), ("type", .string "VariableDeclarator")])),
       ("type", .string "VariableDeclaration")]]

/-- A function expression with a block for its body. -/
def functionWithBody : Json :=
  .object
    [("body", .object [("body", anything), ("type", .string "BlockStatement")]),
     ("type", .string "FunctionExpression")]

/-- `(function (..) { .. })(..)` or `(function (..) { .. }).call(..)`. -/
def wrapper : Json :=
  .object
    [("expression", .object
      [("callee", anyOf
        [functionWithBody,
         .object
          [("object", functionWithBody),
           ("property", .object [("name", .string "call"), ("type", .string "Identifier")]),
           ("type", .string "MemberExpression")]]),
       ("type", .string "CallExpression")]),
     ("type", .string "ExpressionStatement")]

/-- The templates by name. -/
def all : List (String × Json) :=
  [("candidate", candidate),
   ("logical_guard", logicalGuard),
   ("if_block", ifBlock),
   ("decipher_declaration", decipherDeclaration),
   ("function_shaped", functionShaped),
   ("iife_wrapper", wrapper)]

/-- The number of parts of all patterns together, or the first template with a
defect. -/
def totalSize : List (String × Json) → Except (String × Template.Defect) Nat
  | [] => .ok 0
  | (name, template) :: rest =>
    match Pattern.ofTemplate template with
    | .error defect => .error (name, defect)
    | .ok p => (totalSize rest).map fun total => p.size + total

/-! ## Patterns -/

/-- The pattern of a template without defect. -/
def compiled (template : Json) : Pattern :=
  match Pattern.ofTemplate template with
  | .ok p => p
  | .error _ => .anyOf []

def candidatePattern : Pattern := compiled candidate

def logicalGuardPattern : Pattern := compiled logicalGuard

def ifBlockPattern : Pattern := compiled ifBlock

def decipherDeclarationPattern : Pattern := compiled decipherDeclaration

def functionShapedPattern : Pattern := compiled functionShaped

def wrapperPattern : Pattern := compiled wrapper

end Shape

end Decipher
