import Decipher.Pattern.Basic

/-!
# Templates

A template is a pattern written as JSON that looks like the node it describes.
Three shapes of object are markers: the empty object is anything, a sole member
`or` holds the alternatives in an array, and a sole member `anykey` holds the
pattern of some child.  A marker does not mix with other members.

`Pattern.ofTemplate` reads a template.  The first defect in document order, if
there is one, comes back with the place where it stands.
-/

namespace Decipher

namespace Template

/-- The key that marks an alternation. -/
def orKey : String := "or"

/-- The key that marks a search among the children. -/
def anyKey : String := "anykey"

/-- A step from a template to a part of it. -/
inductive Step
  | field (key : String)
  | item (index : Nat)
  | alternative (index : Nat)
  | child
  deriving DecidableEq

def Step.label : Step → String
  | field key => "." ++ key
  | item index => "[" ++ toString index ++ "]"
  | alternative index => ".or[" ++ toString index ++ "]"
  | child => ".anykey"

/-- The steps from the whole template to a part of it, outermost first. -/
abbrev Path := List Step

/-- A path as messages name it, from the root `$`. -/
def pathLabel (path : Path) : String := "$" ++ String.join (path.map Step.label)

/-- What can be wrong with a marker. -/
inductive Flaw
  | notAnArray
  | noAlternatives
  | mixedMarker (marker : String)
  deriving DecidableEq

/-- A flaw and where it stands. -/
structure Defect where
  path : Path
  flaw : Flaw
  deriving DecidableEq

def Defect.message (d : Defect) : String :=
  pathLabel d.path ++ match d.flaw with
    | .notAnArray => ": `or` expects an array of alternatives"
    | .noAlternatives => ": `or` has no alternatives"
    | .mixedMarker marker => ": marker `" ++ marker ++ "` cannot be mixed with other fields"

/-- The marker among several members, `or` before `anykey`. -/
def mixedMarker? (members : List (String × Json)) : Option String :=
  if (Json.lookup orKey members).isSome then some orKey
  else if (Json.lookup anyKey members).isSome then some anyKey
  else none

end Template

namespace Pattern

open Template

mutual

/-- The pattern of a template that stands at `path`. -/
def ofTemplateAt (path : Path) : Json → Except Defect Pattern
  | .object [] => .ok anything
  | .object [(key, v)] =>
    if key = orKey then
      match v with
      | .array [] => .error ⟨path, .noAlternatives⟩
      | .array (a :: as) => do
        let p ← ofTemplateAt (path ++ [.alternative 0]) a
        let ps ← ofAlternatives path 1 as
        return anyOf (p :: ps)
      | _ => .error ⟨path, .notAnArray⟩
    else if key = anyKey then do
      let p ← ofTemplateAt (path ++ [.child]) v
      return anyChild p
    else do
      let p ← ofTemplateAt (path ++ [.field key]) v
      return fields [(key, p)]
  | .object ((key, v) :: second :: rest) =>
    match mixedMarker? ((key, v) :: second :: rest) with
    | some marker => .error ⟨path, .mixedMarker marker⟩
    | none => do
      let p ← ofTemplateAt (path ++ [.field key]) v
      let ps ← ofFields path (second :: rest)
      return fields ((key, p) :: ps)
  | .array items => do
    let ps ← ofItems path 0 items
    return elements ps
  | v => .ok (exactly v)

/-- The patterns of alternatives, from the given index on. -/
def ofAlternatives (path : Path) (index : Nat) : List Json → Except Defect (List Pattern)
  | [] => .ok []
  | v :: rest => do
    let p ← ofTemplateAt (path ++ [.alternative index]) v
    let ps ← ofAlternatives path (index + 1) rest
    return p :: ps

/-- The patterns of items, from the given index on. -/
def ofItems (path : Path) (index : Nat) : List Json → Except Defect (List Pattern)
  | [] => .ok []
  | v :: rest => do
    let p ← ofTemplateAt (path ++ [.item index]) v
    let ps ← ofItems path (index + 1) rest
    return p :: ps

/-- The patterns of members. -/
def ofFields (path : Path) : List (String × Json) → Except Defect (List (String × Pattern))
  | [] => .ok []
  | (key, v) :: rest => do
    let p ← ofTemplateAt (path ++ [.field key]) v
    let ps ← ofFields path rest
    return (key, p) :: ps

end

/-- The pattern of a template, or its first defect. -/
def ofTemplate (template : Json) : Except Defect Pattern := ofTemplateAt [] template

end Pattern

end Decipher
