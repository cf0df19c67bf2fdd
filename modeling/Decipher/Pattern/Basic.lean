import Decipher.Json.Printer

/-!
# Patterns of syntax trees

A pattern describes the part of a node that it names and leaves the rest open:
`fields` asks for members and ignores others, `elements` asks for the first items
of an array and ignores the items behind them.  `anyChild` looks one level down,
at the values of an object or the items of an array.

`Pattern.accepts` is the test, and `Pattern.which` tells, for an alternation, the
first alternative that a node matches.
-/

namespace Decipher

inductive Pattern
  /-- Every node. -/
  | anything
  /-- The node equal to a value. -/
  | exactly (v : Json)
  /-- An object with members that match under the given keys. -/
  | fields (members : List (String × Pattern))
  /-- An array that starts with matching items. -/
  | elements (items : List Pattern)
  /-- A node that matches one of the alternatives. -/
  | anyOf (alternatives : List Pattern)
  /-- An object or array of which some value or item matches. -/
  | anyChild (p : Pattern)

namespace Json

/-- The nodes one level below a node. -/
def children : Json → List Json
  | object members => members.map Prod.snd
  | array items => items
  | _ => []

end Json

namespace Pattern

/-! ## Matching -/

mutual

/-- Whether a node matches. -/
def accepts : Pattern → Json → Bool
  | anything, _ => true
  | exactly v, node => node.same v
  | fields members, .object nodes => acceptsFields members nodes
  | fields _, _ => false
  | elements items, .array nodes => acceptsElements items nodes
  | elements _, _ => false
  | anyOf alternatives, node => acceptsAnyOf alternatives node
  | anyChild p, node => node.children.any (accepts p)

/-- Whether every named member is there and matches. -/
def acceptsFields : List (String × Pattern) → List (String × Json) → Bool
  | [], _ => true
  | (key, p) :: rest, nodes =>
    (match Json.lookup key nodes with
      | some node => accepts p node
      | none => false) && acceptsFields rest nodes

/-- Whether an array starts with matching items. -/
def acceptsElements : List Pattern → List Json → Bool
  | [], _ => true
  | _ :: _, [] => false
  | p :: ps, node :: nodes => accepts p node && acceptsElements ps nodes

/-- Whether some alternative matches. -/
def acceptsAnyOf : List Pattern → Json → Bool
  | [], _ => false
  | p :: ps, node => accepts p node || acceptsAnyOf ps node

end

/-- The index of the alternative that decides a match: the first one that
matches, and zero where the pattern is no alternation. -/
def which (p : Pattern) (node : Json) : Option Nat :=
  match p with
  | anyOf alternatives => alternatives.findIdx? fun a => a.accepts node
  | _ => if p.accepts node then some 0 else none

/-! ## Size and text -/

mutual

/-- The number of parts of a pattern. -/
def size : Pattern → Nat
  | anything => 1
  | exactly _ => 1
  | fields members => 1 + sizeFields members
  | elements items => 1 + sizeItems items
  | anyOf alternatives => 1 + sizeItems alternatives
  | anyChild p => 1 + size p

/-- The parts of a list of named patterns. -/
def sizeFields : List (String × Pattern) → Nat
  | [] => 0
  | (_, p) :: rest => size p + sizeFields rest

/-- The parts of a list of patterns. -/
def sizeItems : List Pattern → Nat
  | [] => 0
  | p :: ps => size p + sizeItems ps

end

mutual

/-- A pattern on one line: `_` for anything, `, ..` where more items may follow,
bars between alternatives. -/
def text : Pattern → String
  | anything => "_"
  | exactly v => v.text
  | fields members => "\x7b" ++ ", ".intercalate (fieldTexts members) ++ "\x7d"
  | elements items => "[" ++ ", ".intercalate (itemTexts items) ++ ", ..]"
  | anyOf alternatives => " | ".intercalate (itemTexts alternatives)
  | anyChild p => "any(" ++ text p ++ ")"

/-- The texts of named patterns, each behind its key. -/
def fieldTexts : List (String × Pattern) → List String
  | [] => []
  | (key, p) :: rest => (key ++ ": " ++ text p) :: fieldTexts rest

/-- The texts of patterns. -/
def itemTexts : List Pattern → List String
  | [] => []
  | p :: ps => text p :: itemTexts ps

end

end Pattern

end Decipher
