import Decipher.Json.Printer

/-!
# Source text of expressions

`sourceText?` writes an expression back as source text.  It knows names,
literals, member expressions and unary operators, and has no answer for anything
else.
-/

namespace Decipher

namespace Expression

/-- The text of a literal: the one it was written with if that is known, else
its value. -/
def literalText? (members : List (String × Json)) : Option String :=
  match (Json.lookup "raw" members).bind Json.asString? with
  | some raw => some raw
  | none =>
    match Json.lookup "value" members with
    | none => none
    | some (.array _) => none
    | some (.object _) => none
    | some value => some value.text

/-- A member of an object in dots or, if the key is computed, in brackets. -/
def memberText (computed : Bool) (object property : String) : String :=
  if computed then object ++ "[" ++ property ++ "]" else object ++ "." ++ property

/-- Whether an operator is a word, which needs a blank behind it. -/
def isWordOperator (operator : String) : Bool :=
  match operator.toList with
  | [] => false
  | c :: _ => c.isAlpha

/-- A unary operator in front of its operand. -/
def unaryText (operator argument : String) : String :=
  if isWordOperator operator then operator ++ " " ++ argument else operator ++ argument

/-- The text of a node from its members and the texts of those that have one. -/
def nodeText? (members : List (String × Json)) (texts : List (String × Option String)) :
    Option String :=
  let text? (key : String) : Option String := (texts.lookup key).join
  let string? (key : String) : Option String := (Json.lookup key members).bind Json.asString?
  match string? "type" with
  | some "Identifier" => string? "name"
  | some "Literal" => literalText? members
  | some "MemberExpression" => do
    let object ← text? "object"
    let property ← text? "property"
    let computed := ((Json.lookup "computed" members).bind Json.asBool?).getD false
    return memberText computed object property
  | some "UnaryExpression" => do
    let operator ← string? "operator"
    let argument ← text? "argument"
    return unaryText operator argument
  | _ => none

mutual

/-- The source text of an expression, if it is one of the known kinds. -/
def sourceText? : Json → Option String
  | .object members => nodeText? members (memberTexts members)
  | _ => none

/-- The source texts of the members of a node. -/
def memberTexts : List (String × Json) → List (String × Option String)
  | [] => []
  | (key, v) :: rest => (key, sourceText? v) :: memberTexts rest

end

end Expression

end Decipher
