import Decipher.Proofs.Pattern.Acceptance
import Decipher.Script.Prune
import Decipher.Solver.Extract

/-!
# What the shapes of statements are

The templates of statements are compiled to patterns and run.  Here each of them is described in
terms of the node alone: which kinds its parts have, and what stands where.

* `Shape.IsDecipherCall`: a call that hands decoded text to a function, and the position at which
  it does so (`Shape.DecodesAt`).
* `Shape.IsGuard`, `Shape.IsConditional`: the two statements that hold such a call.
* `Shape.AssignsFunction`, `Shape.DeclaresFunction`, `Shape.HasFunction`: the three ways in which
  a statement may name a function of three parameters.
* `Shape.Wraps`: a statement that only runs a function, and what that function does.

## How a template is described

A template is data, and running it is a recursion over the pattern that it compiles to.  For each
there are two lemmas.  The first, which ends in `_eq`, says what the template compiles to, with
parts that occur more than once under names of their own; it holds by computation.  The second,
which starts with `accepts_`, turns the acceptance of this pattern into a formula by the lemmas on
patterns (`Proofs.Pattern.Acceptance`), and puts the formula in order.  So a change of a template
shows in its first lemma at once, and in the second only if it changes what is accepted.

Patterns accept more than the scripts that templates were written from: nodes may have other
members, and arrays may go on.  The descriptions say no less and no more, and it is here that one
sees what the search is lenient in: what stands in front of a guard, what else is in a sequence,
that a callee may be computed.
-/

namespace Decipher

namespace Json

/-- That a node is of a kind.  Every template asks for this, and some ask for nothing else. -/
def IsKind (kind : String) (node : Json) : Prop := node.get "type" = .string kind

/-- A node has one kind. -/
theorem IsKind.eq {node : Json} {kind other : String} (is : node.IsKind kind)
    (too : node.IsKind other) : kind = other := by
  rw [IsKind, is] at too
  exact string.inj too

end Json

namespace Shape

open Pattern

variable {node statement call : Json}

/-! ## Kinds -/

/-- The pattern of nodes of a kind. -/
def kindPattern (name : String) : Pattern := .fields [("type", .exactly (.string name))]

/-- This pattern looks at the type of a node and at nothing else. -/
theorem accepts_kindPattern {name : String} :
    (kindPattern name).accepts node = true ↔ node.IsKind name := by
  have solid : (exactly (.string name)).Solid := rfl
  rw [kindPattern, accepts_fields_singleton solid, accepts_exactly_string, Json.IsKind]

/-! ## The decipher call -/

/-- `decodeURIComponent(x)`. -/
structure IsDecodeCall (node : Json) : Prop where
  kind : node.IsKind "CallExpression"
  callee : (node.get "callee").IsKind "Identifier"
  name : node.path ["callee", "name"] = .string textDecoder
  argument : ∃ x rest, node.get "arguments" = .array (x :: rest) ∧ x.IsKind "Identifier"

/-- The position of the decoded text among the arguments of a decipher call: at the front, or
behind a literal. -/
inductive DecodesAt : List Json → Nat → Prop
  | front (text : Json) (rest : List Json) (decodes : IsDecodeCall text) :
    DecodesAt (text :: rest) 0
  | second (first text : Json) (rest : List Json) (literal : first.IsKind "Literal")
      (decodes : IsDecodeCall text) : DecodesAt (first :: text :: rest) 1

/-- `T(decodeURIComponent(x), ..)` or `T(literal, decodeURIComponent(x), ..)`, for a name or a
member expression `T`. -/
structure IsDecipherCall (call : Json) : Prop where
  kind : call.IsKind "CallExpression"
  callee : (call.get "callee").IsKind "Identifier" ∨ (call.get "callee").IsKind "MemberExpression"
  arguments : ∃ arguments position,
    call.get "arguments" = .array arguments ∧ DecodesAt arguments position

def decodePattern : Pattern :=
  .fields
    [("arguments", .elements [kindPattern "Identifier"]),
     ("callee", .fields
      [("name", .exactly (.string textDecoder)), ("type", .exactly (.string "Identifier"))]),
     ("type", .exactly (.string "CallExpression"))]

/-- A decoding has one argument that is looked at, and it is a name.  Others may follow. -/
theorem accepts_decodePattern : decodePattern.accepts node = true ↔ IsDecodeCall node := by
  simp (disch := decide) only [decodePattern, accepts_fields_cons, accepts_fields_singleton,
    accepts_elements_cons, accepts_elements_nil_array, accepts_exactly_string,
    accepts_kindPattern, and_true]
  constructor
  · rintro ⟨argument, ⟨name, callee⟩, kind⟩
    exact ⟨kind, callee, name, argument⟩
  · rintro ⟨kind, callee, name, argument⟩
    exact ⟨argument, ⟨name, callee⟩, kind⟩

/-- The pattern that the template of a decipher call compiles to.  Of the two alternatives for its
arguments the one with a literal comes first. -/
def decipherPattern : Pattern :=
  .fields
    [("arguments", .anyOf
      [.elements [kindPattern "Literal", decodePattern], .elements [decodePattern]]),
     ("callee", .anyOf [kindPattern "Identifier", kindPattern "MemberExpression"]),
     ("type", .exactly (.string "CallExpression"))]

/-- The alternatives of the pattern are the two positions of the decoded text.  A list whose first
item is a literal and whose second decodes has the second position alone, for a literal decodes
nothing. -/
theorem exists_decodesAt :
    (∃ arguments position, node = .array arguments ∧ DecodesAt arguments position) ↔
      (∃ v vs, node = .array (v :: vs) ∧ v.IsKind "Literal" ∧
        ∃ w ws, Json.array vs = .array (w :: ws) ∧ IsDecodeCall w) ∨
      ∃ v vs, node = .array (v :: vs) ∧ IsDecodeCall v := by
  constructor
  · rintro ⟨arguments, position, rfl, ⟨text, rest, decodes⟩ | ⟨first, text, rest, literal, decodes⟩⟩
    · exact .inr ⟨text, rest, rfl, decodes⟩
    · exact .inl ⟨first, text :: rest, rfl, literal, text, rest, rfl, decodes⟩
  · rintro (⟨first, _, rfl, literal, text, rest, ⟨⟩, decodes⟩ | ⟨text, rest, rfl, decodes⟩)
    · exact ⟨_, 1, rfl, .second first text rest literal decodes⟩
    · exact ⟨_, 0, rfl, .front text rest decodes⟩

/-- **What is a decipher call.**  Any member expression may be its callee, also a computed one.  The
arguments behind the decoded text are left open. -/
theorem accepts_decipherPattern : decipherPattern.accepts node = true ↔ IsDecipherCall node := by
  simp (disch := decide) only [decipherPattern, accepts_fields_cons, accepts_fields_singleton,
    accepts_anyOf_cons, accepts_anyOf_singleton, accepts_elements_cons,
    accepts_elements_nil_array, accepts_exactly_string, accepts_kindPattern,
    accepts_decodePattern, and_true]
  rw [← exists_decodesAt]
  constructor
  · rintro ⟨arguments, callee, kind⟩
    exact ⟨kind, callee, arguments⟩
  · rintro ⟨kind, callee, arguments⟩
    exact ⟨arguments, callee, kind⟩

/-! ## Statements with a decipher call -/

/-- `guard && (x = call, ..)`.  Nothing is asked of the guard, and nothing of what follows the
assignment. -/
structure IsGuard (statement call : Json) : Prop where
  kind : statement.IsKind "ExpressionStatement"
  conjunction : (statement.get "expression").IsKind "LogicalExpression"
  operator : statement.path ["expression", "operator"] = .string "&&"
  sequence : (statement.path ["expression", "right"]).IsKind "SequenceExpression"
  assignment : ∃ assignment rest,
    statement.path ["expression", "right", "expressions"] = .array (assignment :: rest) ∧
      assignment.IsKind "AssignmentExpression" ∧ assignment.get "operator" = .string "=" ∧
      (assignment.get "left").IsKind "Identifier" ∧ assignment.get "right" = call
  call : IsDecipherCall call

/-- `var x = call`.  Further variables may follow the first, and its name may be a pattern. -/
structure IsDecipherDeclaration (statement call : Json) : Prop where
  kind : statement.IsKind "VariableDeclaration"
  declarator : ∃ declarator rest,
    statement.get "declarations" = .array (declarator :: rest) ∧
      declarator.IsKind "VariableDeclarator" ∧ declarator.get "init" = call
  call : IsDecipherCall call

/-- `if (..) { ..; var x = call; .. }`, where no earlier statement of the block is of the
form `var x = call'`. -/
structure IsConditional (statement call : Json) : Prop where
  kind : statement.IsKind "IfStatement"
  block : (statement.get "consequent").IsKind "BlockStatement"
  declaration : ∃ before declaration after,
    statement.path ["consequent", "body"] = .array (before ++ declaration :: after) ∧
      (∀ s ∈ before, ∀ call', ¬ IsDecipherDeclaration s call') ∧
      IsDecipherDeclaration declaration call

theorem logicalGuardPattern_eq : logicalGuardPattern =
    .fields
      [("expression", .fields
        [("operator", .exactly (.string "&&")),
         ("right", .fields
          [("expressions", .elements [.fields
            [("left", kindPattern "Identifier"), ("operator", .exactly (.string "=")),
             ("right", decipherPattern),
             ("type", .exactly (.string "AssignmentExpression"))]]),
           ("type", .exactly (.string "SequenceExpression"))]),
         ("type", .exactly (.string "LogicalExpression"))]),
       ("type", .exactly (.string "ExpressionStatement"))] := rfl

/-- A guard has its call as the value of the first of several assignments.  The others are not
looked at, and neither is what is guarded by. -/
theorem accepts_logicalGuardPattern :
    logicalGuardPattern.accepts statement = true ↔ ∃ call, IsGuard statement call := by
  simp (disch := decide) only [logicalGuardPattern_eq, accepts_fields_cons,
    accepts_fields_singleton, accepts_elements_cons, accepts_elements_nil_array,
    accepts_exactly_string, accepts_kindPattern, accepts_decipherPattern, and_true]
  constructor
  · rintro ⟨⟨operator, ⟨⟨assignment, rest, items, left, assigns, call, assigned⟩, sequence⟩,
      conjunction⟩, kind⟩
    exact ⟨_, kind, conjunction, operator, sequence,
      ⟨assignment, rest, items, assigned, assigns, left, rfl⟩, call⟩
  · rintro ⟨_, kind, conjunction, operator, sequence,
      ⟨assignment, rest, items, assigned, assigns, left, rfl⟩, call⟩
    exact ⟨⟨operator, ⟨⟨assignment, rest, items, left, assigns, call, assigned⟩, sequence⟩,
      conjunction⟩, kind⟩

theorem decipherDeclarationPattern_eq : decipherDeclarationPattern =
    .fields
      [("declarations", .elements [.fields
        [("init", decipherPattern), ("type", .exactly (.string "VariableDeclarator"))]]),
       ("type", .exactly (.string "VariableDeclaration"))] := rfl

/-- A declaration has its call as the initial value of its first variable. -/
theorem accepts_decipherDeclarationPattern :
    decipherDeclarationPattern.accepts statement = true ↔
      ∃ call, IsDecipherDeclaration statement call := by
  simp (disch := decide) only [decipherDeclarationPattern_eq, accepts_fields_cons,
    accepts_fields_singleton, accepts_elements_cons, accepts_elements_nil_array,
    accepts_exactly_string, accepts_decipherPattern, and_true]
  constructor
  · rintro ⟨⟨declarator, rest, items, call, declared⟩, kind⟩
    exact ⟨_, kind, ⟨declarator, rest, items, declared, rfl⟩, call⟩
  · rintro ⟨_, kind, ⟨declarator, rest, items, declared, rfl⟩, call⟩
    exact ⟨⟨declarator, rest, items, call, declared⟩, kind⟩

/-- The template of a conditional, compiled.  It says nothing of what is in the block. -/
theorem ifBlockPattern_eq : ifBlockPattern =
    .fields
      [("consequent", .fields
        [("body", .anything), ("type", .exactly (.string "BlockStatement"))]),
       ("type", .exactly (.string "IfStatement"))] := rfl

/-- A conditional has a block with something under the key of its body.  Whether this is a list, and
whether a call is in it, is for the search to find out. -/
theorem accepts_ifBlockPattern :
    ifBlockPattern.accepts statement = true ↔
      statement.IsKind "IfStatement" ∧ (statement.get "consequent").IsKind "BlockStatement" ∧
        ∃ body, (statement.get "consequent").get? "body" = some body := by
  simp (disch := decide) only [ifBlockPattern_eq, accepts_fields_cons, accepts_fields_anything,
    accepts_fields_singleton, accepts_exactly_string]
  constructor
  · rintro ⟨⟨body, block⟩, kind⟩
    exact ⟨kind, block, body⟩
  · rintro ⟨kind, block, body⟩
    exact ⟨⟨body, block⟩, kind⟩

/-! ## Statements that name functions -/

/-- `name = function (a, b, c, ..) { .. }`.  How many parameters the function takes is asked for
elsewhere (`TakesThree`). -/
structure AssignsFunction (statement : Json) : Prop where
  kind : statement.IsKind "ExpressionStatement"
  assignment : (statement.get "expression").IsKind "AssignmentExpression"
  operator : statement.path ["expression", "operator"] = .string "="
  left : (statement.path ["expression", "left"]).IsKind "Identifier"
  right : (statement.path ["expression", "right"]).IsKind "FunctionExpression"

/-- `function name(a, b, c, ..) { .. }`.  The body is left open, as it is in the other two ways to
name a function. -/
structure DeclaresFunction (statement : Json) : Prop where
  kind : statement.IsKind "FunctionDeclaration"
  name : (statement.get "id").IsKind "Identifier"

/-- A variable with a function for its initial value.  Of a list of variables one such is enough for
the template, while the search looks at all of them. -/
structure HasFunction (declarator : Json) : Prop where
  kind : declarator.IsKind "VariableDeclarator"
  name : (declarator.get "id").IsKind "Identifier"
  init : (declarator.get "init").IsKind "FunctionExpression"

/-- A function of at least three parameters.  An array in a template speaks of the first items, and
lets more of them follow. -/
def TakesThree (function : Json) : Prop :=
  ∃ params, function.get "params" = .array params ∧ 3 ≤ params.length

def functionPattern : Pattern :=
  .fields
    [("params", .elements [.anything, .anything, .anything]),
     ("type", .exactly (.string "FunctionExpression"))]

/-- Three elements of any kind stand for three parameters or more: an array is accepted if it starts
with what the pattern has. -/
theorem accepts_threeParameters {params : Json} :
    (elements [.anything, .anything, .anything]).accepts params = true ↔
      ∃ items, params = .array items ∧ 3 ≤ items.length := by
  simp only [accepts_elements_cons, accepts_elements_nil_array, accepts_anything, and_true,
    true_and]
  constructor
  · rintro ⟨a, _, rfl, b, _, ⟨⟩, c, rest, ⟨⟩⟩
    exact ⟨_, rfl, by simp⟩
  · rintro ⟨items, rfl, three⟩
    match items, three with
    | a :: b :: c :: rest, _ => exact ⟨a, _, rfl, b, _, rfl, c, rest, rfl⟩

/-- A function expression is accepted if it takes three parameters. -/
theorem accepts_functionPattern :
    functionPattern.accepts node = true ↔ node.IsKind "FunctionExpression" ∧ TakesThree node := by
  simp (disch := decide) only [functionPattern, accepts_fields_cons, accepts_fields_singleton,
    accepts_threeParameters, accepts_exactly_string]
  exact and_comm

def assignsPattern : Pattern :=
  .fields
    [("expression", .fields
      [("left", kindPattern "Identifier"), ("operator", .exactly (.string "=")),
       ("right", functionPattern), ("type", .exactly (.string "AssignmentExpression"))]),
     ("type", .exactly (.string "ExpressionStatement"))]

def declaresPattern : Pattern :=
  .fields
    [("id", kindPattern "Identifier"),
     ("params", .elements [.anything, .anything, .anything]),
     ("type", .exactly (.string "FunctionDeclaration"))]

/-- The third, for declarations of variables.  It asks for one function among them. -/
def listsPattern : Pattern :=
  .fields
    [("declarations", .anyChild (.fields
      [("id", kindPattern "Identifier"), ("init", functionPattern),
       ("type", .exactly (.string "VariableDeclarator"))])),
     ("type", .exactly (.string "VariableDeclaration"))]

theorem candidatePattern_eq :
    candidatePattern = .anyOf [assignsPattern, declaresPattern, listsPattern] := rfl

/-- The name on the left is a plain one.  A function that is assigned to a member is not looked for.
-/
theorem accepts_assignsPattern :
    assignsPattern.accepts statement = true ↔
      AssignsFunction statement ∧ TakesThree (statement.path ["expression", "right"]) := by
  simp (disch := decide) only [assignsPattern, accepts_fields_cons, accepts_fields_singleton,
    accepts_exactly_string, accepts_kindPattern, accepts_functionPattern]
  constructor
  · rintro ⟨⟨left, operator, ⟨right, three⟩, assignment⟩, kind⟩
    exact ⟨⟨kind, assignment, operator, left, right⟩, three⟩
  · rintro ⟨⟨kind, assignment, operator, left, right⟩, three⟩
    exact ⟨⟨left, operator, ⟨right, three⟩, assignment⟩, kind⟩

theorem accepts_declaresPattern :
    declaresPattern.accepts statement = true ↔
      DeclaresFunction statement ∧ TakesThree statement := by
  simp (disch := decide) only [declaresPattern, accepts_fields_cons, accepts_fields_singleton,
    accepts_exactly_string, accepts_kindPattern, accepts_threeParameters]
  constructor
  · rintro ⟨name, three, kind⟩
    exact ⟨⟨kind, name⟩, three⟩
  · rintro ⟨⟨kind, name⟩, three⟩
    exact ⟨name, three, kind⟩

/-- One of the variables has a function of three parameters.  The others may have anything. -/
theorem accepts_listsPattern :
    listsPattern.accepts statement = true ↔
      statement.IsKind "VariableDeclaration" ∧ ∃ v ∈ (statement.get "declarations").children,
        HasFunction v ∧ TakesThree (v.get "init") := by
  simp (disch := decide) only [listsPattern, accepts_fields_cons, accepts_fields_singleton,
    accepts_exactly_string, accepts_kindPattern, accepts_functionPattern, accepts_anyChild]
  constructor
  · rintro ⟨⟨v, member, name, ⟨init, three⟩, kind'⟩, kind⟩
    exact ⟨kind, v, member, ⟨kind', name, init⟩, three⟩
  · rintro ⟨kind, v, member, ⟨kind', name, init⟩, three⟩
    exact ⟨⟨v, member, name, ⟨init, three⟩, kind'⟩, kind⟩

/-- The three ways exclude each other, so that the order of the alternatives does not show.  They
differ in the type of the statement already. -/
theorem which_candidatePattern {i : Nat} :
    candidatePattern.which statement = some i ↔
      (i = 0 ∧ assignsPattern.accepts statement = true) ∨
        (i = 1 ∧ declaresPattern.accepts statement = true) ∨
          (i = 2 ∧ listsPattern.accepts statement = true) := by
  have assigned_not_declared (a : assignsPattern.accepts statement = true) :
      declaresPattern.accepts statement ≠ true := fun d =>
    nomatch (accepts_assignsPattern.mp a).1.kind.eq (accepts_declaresPattern.mp d).1.kind
  have assigned_not_listed (a : assignsPattern.accepts statement = true) :
      listsPattern.accepts statement ≠ true := fun l =>
    nomatch (accepts_assignsPattern.mp a).1.kind.eq (accepts_listsPattern.mp l).1
  have declared_not_listed (d : declaresPattern.accepts statement = true) :
      listsPattern.accepts statement ≠ true := fun l =>
    nomatch (accepts_declaresPattern.mp d).1.kind.eq (accepts_listsPattern.mp l).1
  rw [candidatePattern_eq, which]
  cases a : assignsPattern.accepts statement with
  | true =>
    simp [List.findIdx?_cons, a, assigned_not_declared a, assigned_not_listed a, @eq_comm _ i]
  | false =>
    cases d : declaresPattern.accepts statement with
    | true => simp [List.findIdx?_cons, a, d, declared_not_listed d, @eq_comm _ i]
    | false => simp [List.findIdx?_cons, a, d, @eq_comm _ i, and_comm]

/-! ## Statements that are kept -/

/-- A statement that defines a function, of whatever parameters.  The filter keeps these and no
others; it asks for no names, so that it keeps more than the search can use. -/
inductive DefinesFunction (statement : Json) : Prop
  | declared (kind : statement.IsKind "FunctionDeclaration")
  | assigned (kind : statement.IsKind "ExpressionStatement")
      (assignment : (statement.get "expression").IsKind "AssignmentExpression")
      (right : (statement.path ["expression", "right"]).IsKind "FunctionExpression")
  | listed (kind : statement.IsKind "VariableDeclaration") (declarator : Json)
      (member : declarator ∈ (statement.get "declarations").children)
      (declares : declarator.IsKind "VariableDeclarator")
      (init : (declarator.get "init").IsKind "FunctionExpression")

theorem functionShapedPattern_eq : functionShapedPattern =
    .anyOf
      [kindPattern "FunctionDeclaration",
       .fields
        [("expression", .fields
          [("right", kindPattern "FunctionExpression"),
           ("type", .exactly (.string "AssignmentExpression"))]),
         ("type", .exactly (.string "ExpressionStatement"))],
       .fields
        [("declarations", .anyChild (.fields
          [("init", kindPattern "FunctionExpression"),
           ("type", .exactly (.string "VariableDeclarator"))])),
         ("type", .exactly (.string "VariableDeclaration"))]] := rfl

/-- **What is kept of a script**: a statement that defines a function, however many parameters the
function takes and whatever is on the left of it. -/
theorem accepts_functionShapedPattern :
    functionShapedPattern.accepts statement = true ↔ DefinesFunction statement := by
  simp (disch := decide) only [functionShapedPattern_eq, accepts_anyOf_cons,
    accepts_anyOf_singleton, accepts_fields_cons, accepts_fields_singleton,
    accepts_exactly_string, accepts_kindPattern, accepts_anyChild]
  constructor
  · rintro (kind | ⟨⟨right, assignment⟩, kind⟩ | ⟨⟨v, member, init, declares⟩, kind⟩)
    · exact .declared kind
    · exact .assigned kind assignment right
    · exact .listed kind v member declares init
  · rintro (kind | ⟨kind, assignment, right⟩ | ⟨kind, v, member, declares, init⟩)
    · exact .inl kind
    · exact .inr (.inl ⟨⟨right, assignment⟩, kind⟩)
    · exact .inr (.inr ⟨⟨v, member, init, declares⟩, kind⟩)

/-- A statement that names a function of three parameters defines a function. -/
theorem definesFunction_of_which {i : Nat} (h : candidatePattern.which statement = some i) :
    DefinesFunction statement := by
  rcases which_candidatePattern.mp h with ⟨-, a⟩ | ⟨-, d⟩ | ⟨-, l⟩
  · obtain ⟨⟨kind, assignment, -, -, right⟩, -⟩ := accepts_assignsPattern.mp a
    exact .assigned kind assignment right
  · exact .declared (accepts_declaresPattern.mp d).1.kind
  · obtain ⟨kind, v, member, has, -⟩ := accepts_listsPattern.mp l
    exact .listed kind v member has.kind has.init

/-! ## Statements that are opened -/

/-- A function that is called as it stands, or by its method `call`.  Whether the property is
computed is not asked. -/
inductive Runs : Json → Json → Prop
  | directly (function : Json) : Runs function function
  | byCall (callee : Json) (kind : callee.IsKind "MemberExpression")
      (property : (callee.get "property").IsKind "Identifier")
      (name : callee.path ["property", "name"] = .string "call") :
    Runs callee (callee.get "object")

theorem runs_iff {callee function : Json} :
    Runs callee function ↔
      function = callee ∨ callee.IsKind "MemberExpression" ∧
        (callee.get "property").IsKind "Identifier" ∧
        callee.path ["property", "name"] = .string "call" ∧ function = callee.get "object" := by
  constructor
  · intro runs
    cases runs with
    | directly => exact .inl rfl
    | byCall kind property name => exact .inr ⟨kind, property, name, rfl⟩
  · rintro (rfl | ⟨kind, property, name, rfl⟩)
    · exact .directly _
    · exact .byCall _ kind property name

/-- `(function (..) { inner })(..)` or `(function (..) { inner }).call(..)`.  The statements in it
are what takes its place; its arguments and parameters are dropped with it. -/
structure Wraps (statement : Json) (inner : List Json) : Prop where
  kind : statement.IsKind "ExpressionStatement"
  call : (statement.get "expression").IsKind "CallExpression"
  function : ∃ function, Runs (statement.path ["expression", "callee"]) function ∧
    function.IsKind "FunctionExpression" ∧ (function.get "body").IsKind "BlockStatement" ∧
    function.path ["body", "body"] = .array inner

/-- The pattern of a function expression with a body. -/
def bodyPattern : Pattern :=
  .fields
    [("body", .fields [("body", .anything), ("type", .exactly (.string "BlockStatement"))]),
     ("type", .exactly (.string "FunctionExpression"))]

/-- A function with a body has something in it, which need not be a list. -/
theorem accepts_bodyPattern :
    bodyPattern.accepts node = true ↔
      node.IsKind "FunctionExpression" ∧ (node.get "body").IsKind "BlockStatement" ∧
        ∃ body, (node.get "body").get? "body" = some body := by
  simp (disch := decide) only [bodyPattern, accepts_fields_cons, accepts_fields_anything,
    accepts_fields_singleton, accepts_exactly_string]
  constructor
  · rintro ⟨⟨body, block⟩, kind⟩
    exact ⟨kind, block, body⟩
  · rintro ⟨kind, block, body⟩
    exact ⟨⟨body, block⟩, kind⟩

/-- The template of wrappers, compiled. -/
theorem wrapperPattern_eq : wrapperPattern =
    .fields
      [("expression", .fields
        [("callee", .anyOf
          [bodyPattern,
           .fields
            [("object", bodyPattern),
             ("property", .fields
              [("name", .exactly (.string "call")), ("type", .exactly (.string "Identifier"))]),
             ("type", .exactly (.string "MemberExpression"))]]),
         ("type", .exactly (.string "CallExpression"))]),
       ("type", .exactly (.string "ExpressionStatement"))] := rfl

/-- A wrapper runs a function with a body.  What the body is does not matter to the template, so
that a wrapper may have no statements to give. -/
theorem accepts_wrapperPattern :
    wrapperPattern.accepts statement = true ↔
      statement.IsKind "ExpressionStatement" ∧
        (statement.get "expression").IsKind "CallExpression" ∧
        ∃ function, Runs (statement.path ["expression", "callee"]) function ∧
          bodyPattern.accepts function = true := by
  simp (disch := decide) only [wrapperPattern_eq, accepts_fields_cons, accepts_fields_singleton,
    accepts_anyOf_cons, accepts_anyOf_singleton, accepts_exactly_string]
  constructor
  · rintro ⟨⟨body | ⟨body, ⟨name, property⟩, member⟩, call⟩, kind⟩
    · exact ⟨kind, call, _, .directly _, body⟩
    · exact ⟨kind, call, _, .byCall _ member property name, body⟩
  · rintro ⟨kind, call, function, runs, body⟩
    refine ⟨⟨?_, call⟩, kind⟩
    rcases runs_iff.mp runs with rfl | ⟨member, property, name, rfl⟩
    · exact .inl body
    · exact .inr ⟨body, ⟨name, property⟩, member⟩

end Shape

end Decipher
