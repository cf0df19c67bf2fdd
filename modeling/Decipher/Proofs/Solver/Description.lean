import Decipher.Proofs.Script.Shape
import Mathlib.Data.Option.Basic

/-!
# What the search finds

The search runs templates over a statement, reads names and bodies out of what matched, and
tries several functions where one statement defines several.  All this comes to a description
of the statement that mentions no template.

* `Binds`: the functions that a statement binds to names, in order.
* `Holds`: a function of three parameters whose last statement but one holds a decipher call.
* `Yields`: the first binding that holds a call, and the solver that is built from it.
* `extract?_yields`: the search answers with a solver just when the statement yields it, and has
  no answer just when none of the statement's bindings holds a call.

## From templates to descriptions and back

What a template accepts is described beside it, in `Proofs.Script.Shape`.  Here these descriptions
are put together along the way of the search: from a guard or a conditional to the call in it
(`NamedFunction.guardedCall?_eq_some`, `NamedFunction.conditionalCall?_eq_some`), from a function to
its call (`NamedFunction.decipherCall?_eq_some`), from a binding to its solver
(`Binding.solver?_eq_some`, `Binding.solver?_eq_none`), and from a statement to its bindings.

The last step does not go through by itself.  The templates ask for a function of three parameters,
so that the search may pass over a statement that binds a function to a name.  It does so only if
the function holds no call, and this is what `Binds.inStatement_eq` has its condition for.  In a
list of variables one function of three parameters is enough, and the search then tries all
functions.

Names and functions are kept apart from what the program makes of them.  A name may be no string,
and then the search drops the function in silence; `Binding` has such names too, and `Qualifies`
rules them out.
-/

namespace Decipher

open Shape

namespace Json

theorem asArray?_eq_some {v : Json} {items : List Json} :
    v.asArray? = some items ↔ v = .array items := by
  cases v <;> simp [asArray?]

theorem asString?_eq_some {v : Json} {s : String} : v.asString? = some s ↔ v = .string s := by
  cases v <;> simp [asString?]

theorem array?_eq_some {keys : List String} {v : Json} {items : List Json} :
    v.array? keys = some items ↔ v.path keys = .array items := asArray?_eq_some

theorem same_string {v : Json} {s : String} : v.same (.string s) = true ↔ v = .string s := by
  cases v <;> simp [same]

/-- A member that reads as an array is there. -/
theorem get?_of_get_array {key : String} {v : Json} {items : List Json}
    (there : v.get key = .array items) : v.get? key = some (.array items) := by
  unfold get at there
  cases found : v.get? key with
  | none => simp [found] at there
  | some w => rw [← there, found, Option.getD_some]

end Json

/-- The last item but one, counted from the front.  There is none in a list of one item. -/
theorem penultimate?_eq_some {α : Type} {items : List α} {x : α} :
    penultimate? items = some x ↔ 2 ≤ items.length ∧ items[items.length - 2]? = some x := by
  unfold penultimate?
  by_cases two : 2 ≤ items.length
  · rw [List.getElem?_reverse (by omega), Nat.sub_sub]
    simp [two]
  · simp only [two, false_and, iff_false, List.getElem?_eq_none_iff.mpr
      (show items.reverse.length ≤ 1 by simp; omega)]
    exact nofun

/-! ## Calls in statements -/

namespace NamedFunction

variable {statement call : Json}

theorem item_eq_of_isGuard (guard : IsGuard statement call) :
    ((statement.path ["expression", "right", "expressions"]).item 0).get "right" = call := by
  obtain ⟨assignment, rest, items, -, -, -, right⟩ := guard.assignment
  rw [items]
  exact right

theorem item_eq_of_isDecipherDeclaration (declaration : IsDecipherDeclaration statement call) :
    ((statement.get "declarations").item 0).get "init" = call := by
  obtain ⟨declarator, rest, items, -, init⟩ := declaration.declarator
  rw [items]
  exact init

/-- **The call behind a guard**, without templates.  The template speaks of the first expression of
the sequence, and from there the call is taken. -/
theorem guardedCall?_eq_some :
    guardedCall? statement = some call ↔ IsGuard statement call := by
  rw [guardedCall?, Option.ite_none_right_eq_some, accepts_logicalGuardPattern,
    Option.some.injEq]
  constructor
  · rintro ⟨⟨call', guard⟩, rfl⟩
    rwa [item_eq_of_isGuard guard]
  · intro guard
    exact ⟨⟨call, guard⟩, item_eq_of_isGuard guard⟩

/-- **The call in the block of a conditional**, without templates.  The search takes the first
declaration of the block that holds a call, and the description says the same of it. -/
theorem conditionalCall?_eq_some :
    conditionalCall? statement = some call ↔ IsConditional statement call := by
  simp only [conditionalCall?, Option.ite_none_right_eq_some, accepts_ifBlockPattern,
    Option.bind_eq_bind, Option.bind_eq_some_iff, List.find?_eq_some_iff_append,
    Option.pure_def, Option.some.injEq, Json.array?_eq_some, Bool.not_eq_true', Bool.eq_false_iff,
    Ne, accepts_decipherDeclarationPattern, not_exists]
  constructor
  · rintro ⟨⟨kind, block, -⟩, _, items, declaration, ⟨⟨call', is⟩, before, after, rfl, none⟩, rfl⟩
    rw [item_eq_of_isDecipherDeclaration is]
    exact ⟨kind, block, before, declaration, after, items, none, is⟩
  · rintro ⟨kind, block, before, declaration, after, items, none, is⟩
    exact ⟨⟨kind, block, _, Json.get?_of_get_array items⟩, _, items, declaration,
      ⟨⟨call, is⟩, before, after, rfl, none⟩, item_eq_of_isDecipherDeclaration is⟩

/-! ## Calls in functions -/

/-- A function of three parameters whose last statement but one holds a decipher call.  The number
is exact here, while the templates of statements let more than three parameters through. -/
structure Holds (function call : Json) : Prop where
  parameters : ∃ params, function.get "params" = .array params ∧ params.length = 3
  statement : ∃ body statement, function.path ["body", "body"] = .array body ∧
    2 ≤ body.length ∧ body[body.length - 2]? = some statement ∧
    (IsGuard statement call ∨ IsConditional statement call)

/-- A statement has one kind, so that it does not matter which of the two forms is looked for
first. -/
theorem orElse_eq_some :
    (guardedCall? statement <|> conditionalCall? statement) = some call ↔
      IsGuard statement call ∨ IsConditional statement call := by
  rw [← guardedCall?_eq_some, ← conditionalCall?_eq_some]
  cases g : guardedCall? statement with
  | none => simp
  | some call' =>
    have not : conditionalCall? statement ≠ some call := fun h =>
      nomatch (guardedCall?_eq_some.mp g).kind.eq (conditionalCall?_eq_some.mp h).kind
    simp [not]

/-- **The search finds the call that a function holds**, and no other.  There is one at most: a
statement is a guard or a conditional, and either one has a single call. -/
theorem decipherCall?_eq_some {f : NamedFunction} :
    f.decipherCall? = some call ↔ Holds f.function call := by
  simp only [decipherCall?, Option.bind_eq_bind, Option.bind_eq_some_iff, Json.array?_eq_some,
    orElse_eq_some, penultimate?_eq_some, Option.guard_eq_some']
  constructor
  · rintro ⟨params, are, -, three, body, is, statement, ⟨two, last⟩, found⟩
    exact ⟨⟨params, are, three⟩, body, statement, is, two, last, found⟩
  · rintro ⟨⟨params, are, three⟩, body, statement, is, two, last, found⟩
    exact ⟨params, are, (), three, body, is, statement, ⟨two, last⟩, found⟩

end NamedFunction

/-! ## Functions in statements -/

/-- A function and what stands for its name.  That is a value of any kind as long as nobody has
asked whether it is a string. -/
structure Binding where
  name : Json
  function : Json

/-- Of the variables of a statement, those with a string for a name and a function for their
initial value, in order. -/
inductive Functions : List Json → List Binding → Prop
  | nil : Functions [] []
  | keep (declarator : Json) (rest : List Json) (bindings : List Binding) (name : String)
      (named : declarator.path ["id", "name"] = .string name)
      (function : (declarator.get "init").IsKind "FunctionExpression")
      (others : Functions rest bindings) :
    Functions (declarator :: rest) (⟨.string name, declarator.get "init"⟩ :: bindings)
  | skip (declarator : Json) (rest : List Json) (bindings : List Binding)
      (other : ∀ name, declarator.path ["id", "name"] = .string name →
        ¬ (declarator.get "init").IsKind "FunctionExpression")
      (others : Functions rest bindings) :
    Functions (declarator :: rest) bindings

/-- The functions that a statement binds to names, in order. -/
inductive Binds (statement : Json) : List Binding → Prop
  | assigned (assigns : AssignsFunction statement) :
    Binds statement
      [⟨statement.path ["expression", "left", "name"], statement.path ["expression", "right"]⟩]
  | declared (declares : DeclaresFunction statement) :
    Binds statement [⟨statement.path ["id", "name"], statement⟩]
  | listed (kind : statement.IsKind "VariableDeclaration") (declarators : List Json)
      (bindings : List Binding) (list : statement.get "declarations" = .array declarators)
      (candidate : ∃ v ∈ declarators, HasFunction v ∧ TakesThree (v.get "init"))
      (functions : Functions declarators bindings) :
    Binds statement bindings

namespace Binding

/-- A binding of a name to a function that holds a call.  For such a binding, and for no other,
there is a solver. -/
structure Qualifies (b : Binding) (call : Json) : Prop where
  name : ∃ name, b.name = .string name
  holds : NamedFunction.Holds b.function call

/-- The solver for a call: a sole argument gives way to the parameter, and of several the
first stays and the parameter follows it. -/
structure Builds (b : Binding) (call : Json) (solver : Solver) : Prop where
  name : b.name = .string solver.sourceFunction
  callee : solver.callee = call.get "callee"
  arguments : ∃ first rest, call.get "arguments" = .array (first :: rest) ∧
    solver.arguments = if rest.isEmpty then [.parameter] else [.preserved first, .parameter]

/-- The function of a binding under its name.  There is none if the name is no string. -/
def named? (b : Binding) : Option NamedFunction := NamedFunction.of? b.name b.function

/-- The solver of a binding. -/
def solver? (b : Binding) : Option Solver := b.named?.bind Solver.ofFunction?

end Binding

/-- **What a statement yields**: the first of its bindings that holds a call, that call, and
the solver built from it. -/
inductive Yields (statement call : Json) (solver : Solver) : Prop
  | first (before : List Binding) (binding : Binding) (after : List Binding)
      (binds : Binds statement (before ++ binding :: after))
      (none : ∀ b ∈ before, ∀ call', ¬ b.Qualifies call')
      (qualifies : binding.Qualifies call) (builds : binding.Builds call solver)

/-! ## From bindings to solvers -/

namespace NamedFunction.Holds

variable {function call : Json}

theorem isDecipherCall (holds : Holds function call) : IsDecipherCall call := by
  obtain ⟨body, statement, -, -, -, guard | conditional⟩ := holds.statement
  · exact guard.call
  · obtain ⟨-, declaration, -, -, -, is⟩ := conditional.declaration
    exact is.call

/-- A decipher call has arguments. -/
theorem arguments (holds : Holds function call) :
    ∃ first rest, call.get "arguments" = .array (first :: rest) := by
  obtain ⟨_, _, are, decodes⟩ := holds.isDecipherCall.arguments
  cases decodes with
  | front text rest => exact ⟨text, rest, are⟩
  | second first text rest => exact ⟨first, text :: rest, are⟩

/-- A function that holds a call takes three parameters, which is what the templates for statements
ask for. -/
theorem takesThree (holds : Holds function call) : TakesThree function := by
  obtain ⟨params, are, three⟩ := holds.parameters
  exact ⟨params, are, Nat.le_of_eq three.symm⟩

end NamedFunction.Holds

namespace Binding

variable {b : Binding} {call : Json} {solver : Solver}

/-- The description of a solver says what `Solver.ofCall?` makes of the call: the parameter for a
sole argument, and else the first argument and the parameter. -/
theorem builds_iff {name : String} (named : b.name = .string name) :
    b.Builds call solver ↔ Solver.ofCall? name call = some solver := by
  obtain ⟨sourceFunction, callee, arguments⟩ := solver
  rw [Solver.ofCall?]
  constructor
  · rintro ⟨name', rfl, first, rest, are, rfl⟩
    rw [named, Json.string.injEq] at name'
    have arguments : call.array? ["arguments"] = some (first :: rest) :=
      Json.array?_eq_some.mpr are
    rw [arguments, name']
    cases rest <;> rfl
  · intro h
    split at h
    · cases h
    · cases h
    · rename_i first are
      cases h
      exact ⟨named, rfl, first, [], Json.array?_eq_some.mp are, rfl⟩
    · rename_i first second rest are
      cases h
      exact ⟨named, rfl, first, second :: rest, Json.array?_eq_some.mp are, rfl⟩

/-- A function that holds a call has a solver. -/
theorem Qualifies.exists_builds (qualifies : b.Qualifies call) :
    ∃ solver, b.Builds call solver := by
  obtain ⟨name, named⟩ := qualifies.name
  obtain ⟨first, rest, are⟩ := qualifies.holds.arguments
  exact ⟨⟨name, call.get "callee", _⟩, named, rfl, first, rest, are, rfl⟩

/-- A binding has the solver that is built from the call that it holds. -/
theorem solver?_eq_some :
    b.solver? = some solver ↔ ∃ call, b.Qualifies call ∧ b.Builds call solver := by
  simp only [solver?, named?, NamedFunction.of?, Option.bind_eq_some_iff,
    Option.map_eq_some_iff, Json.asString?_eq_some, Solver.ofFunction?,
    NamedFunction.decipherCall?_eq_some]
  constructor
  · rintro ⟨_, ⟨name, named, rfl⟩, call, holds, built⟩
    exact ⟨call, ⟨⟨name, named⟩, holds⟩, (builds_iff named).mpr built⟩
  · rintro ⟨call, ⟨⟨name, named⟩, holds⟩, builds⟩
    exact ⟨_, ⟨name, named, rfl⟩, call, holds, (builds_iff named).mp builds⟩

/-- A binding has no solver just if it holds no call.  This cannot be read off `solver?_eq_some`
alone: it needs that a call that is held always has arguments to build from. -/
theorem solver?_eq_none : b.solver? = none ↔ ∀ call, ¬ b.Qualifies call := by
  rw [Option.eq_none_iff_forall_ne_some]
  constructor
  · intro none call qualifies
    obtain ⟨solver, builds⟩ := qualifies.exists_builds
    exact none solver (solver?_eq_some.mpr ⟨call, qualifies, builds⟩)
  · intro none solver found
    obtain ⟨call, qualifies, -⟩ := solver?_eq_some.mp found
    exact none call qualifies

end Binding

/-! ## From statements to bindings -/

section Statements

open NamedFunction

variable {statement : Json} {bindings : List Binding}

/-- A variable is taken for a function if it has a string for its name and a function for its
initial value. -/
theorem ofDeclarator?_eq_some {declarator : Json} {f : NamedFunction} :
    ofDeclarator? declarator = some f ↔
      declarator.path ["id", "name"] = .string f.name ∧
        (declarator.get "init").IsKind "FunctionExpression" ∧
        f.function = declarator.get "init" := by
  obtain ⟨name, function⟩ := f
  simp only [ofDeclarator?, Option.ite_none_right_eq_some, Json.same_string, of?,
    Option.map_eq_some_iff, Json.asString?_eq_some, mk.injEq]
  constructor
  · rintro ⟨kind, _, named, rfl, rfl⟩
    exact ⟨named, kind, rfl⟩
  · rintro ⟨named, kind, rfl⟩
    exact ⟨kind, name, named, rfl, rfl⟩

/-- What the search takes from a list of variables is what the list binds, in the same order. -/
theorem Functions.filterMap_eq {declarators : List Json}
    (functions : Functions declarators bindings) :
    declarators.filterMap ofDeclarator? = bindings.filterMap Binding.named? := by
  induction functions with
  | nil => rfl
  | keep declarator rest bindings name named function others ih =>
    have found : ofDeclarator? declarator = some ⟨name, declarator.get "init"⟩ :=
      ofDeclarator?_eq_some.mpr ⟨named, function, rfl⟩
    rw [List.filterMap_cons_some found, ih]
    rfl
  | skip declarator rest bindings other others ih =>
    have none : ofDeclarator? declarator = none := by
      rw [Option.eq_none_iff_forall_ne_some]
      intro f found
      obtain ⟨named, function, -⟩ := ofDeclarator?_eq_some.mp found
      exact other f.name named function
    rw [List.filterMap_cons_none none, ih]

/-- Every list of variables binds some functions, if only none. -/
theorem exists_functions (declarators : List Json) :
    ∃ bindings, Functions declarators bindings := by
  induction declarators with
  | nil => exact ⟨[], .nil⟩
  | cons declarator rest ih =>
    obtain ⟨bindings, others⟩ := ih
    cases found : ofDeclarator? declarator with
    | none =>
      refine ⟨bindings, .skip declarator rest bindings (fun name named function => ?_) others⟩
      have some : ofDeclarator? declarator = some ⟨name, declarator.get "init"⟩ :=
        ofDeclarator?_eq_some.mpr ⟨named, function, rfl⟩
      exact nomatch found.symm.trans some
    | some f =>
      obtain ⟨named, function, -⟩ := ofDeclarator?_eq_some.mp found
      exact ⟨_, .keep declarator rest bindings f.name named function others⟩

theorem inStatement_of_assigns (assigns : assignsPattern.accepts statement = true) :
    inStatement statement = (of? (statement.path ["expression", "left", "name"])
      (statement.path ["expression", "right"])).toList := by
  rw [inStatement, which_candidatePattern.mpr (.inl ⟨rfl, assigns⟩)]
  rfl

/-- The templates exclude each other, so that a declaration is not tried by the first one. -/
theorem inStatement_of_declares (declares : declaresPattern.accepts statement = true) :
    inStatement statement = (of? (statement.path ["id", "name"]) statement).toList := by
  rw [inStatement, which_candidatePattern.mpr (.inr (.inl ⟨rfl, declares⟩))]
  rfl

/-- Only in a list of variables can there be several functions. -/
theorem inStatement_of_lists (lists : listsPattern.accepts statement = true) :
    inStatement statement =
      ((statement.array? ["declarations"]).getD []).filterMap ofDeclarator? := by
  rw [inStatement, which_candidatePattern.mpr (.inr (.inr ⟨rfl, lists⟩))]
  rfl

theorem filterMap_named?_singleton (b : Binding) :
    [b].filterMap Binding.named? = b.named?.toList := by
  cases found : b.named? <;> simp [found]

/-- What the search tries is what the statement binds.  A statement that no template matches has
nothing to try. -/
theorem exists_binds (some : inStatement statement ≠ []) :
    ∃ bindings, Binds statement bindings ∧
      inStatement statement = bindings.filterMap Binding.named? := by
  cases which : candidatePattern.which statement with
  | none => simp [inStatement, which] at some
  | some i =>
    rcases which_candidatePattern.mp which with ⟨-, assigns⟩ | ⟨-, declares⟩ | ⟨-, lists⟩
    · refine ⟨_, .assigned (accepts_assignsPattern.mp assigns).1, ?_⟩
      rw [inStatement_of_assigns assigns, filterMap_named?_singleton]
      rfl
    · refine ⟨_, .declared (accepts_declaresPattern.mp declares).1, ?_⟩
      rw [inStatement_of_declares declares, filterMap_named?_singleton]
      rfl
    · -- Each declarator may bind a function or not, so there may be several bindings here.
      rw [inStatement_of_lists lists] at some ⊢
      obtain ⟨kind, v, member, candidate⟩ := accepts_listsPattern.mp lists
      cases array : statement.array? ["declarations"] with
      | none => simp [array] at some
      | some declarators =>
        have list : statement.get "declarations" = .array declarators :=
          Json.array?_eq_some.mp array
        obtain ⟨bindings, functions⟩ := exists_functions declarators
        rw [list] at member
        exact ⟨bindings, .listed kind declarators bindings list ⟨v, member, candidate⟩ functions,
          functions.filterMap_eq⟩

/-- **What a statement binds the search tries**, if one of the bindings holds a call.  The condition
is needed where there is one binding: the templates for an assignment and for a declaration ask for
a function of three parameters, and a function that holds a call is one.  For a list of variables
this is part of what it means to bind them. -/
theorem Binds.inStatement_eq (binds : Binds statement bindings) {b : Binding} {call : Json}
    (member : b ∈ bindings) (qualifies : b.Qualifies call) :
    inStatement statement = bindings.filterMap Binding.named? := by
  cases binds with
  | assigned assigns =>
    rw [List.mem_singleton] at member
    subst member
    have three := qualifies.holds.takesThree
    rw [inStatement_of_assigns (accepts_assignsPattern.mpr ⟨assigns, three⟩),
      filterMap_named?_singleton]
    rfl
  | declared declares =>
    rw [List.mem_singleton] at member
    subst member
    have three := qualifies.holds.takesThree
    rw [inStatement_of_declares (accepts_declaresPattern.mpr ⟨declares, three⟩),
      filterMap_named?_singleton]
    rfl
  | listed kind declarators _ list candidate functions =>
    -- The pattern needs one declarator that is a candidate, and the list has one.
    have lists : listsPattern.accepts statement = true := by
      obtain ⟨v, member, candidate⟩ := candidate
      refine accepts_listsPattern.mpr ⟨kind, v, ?_, candidate⟩
      rw [list]
      exact member
    have array : statement.array? ["declarations"] = some declarators :=
      Json.array?_eq_some.mpr list
    rw [inStatement_of_lists lists, array]
    exact functions.filterMap_eq

/-- The solver of a statement is that of the first binding that has one.  The others before it are
passed over, whatever they lack. -/
theorem extract?_eq_of_inStatement_eq
    (same : inStatement statement = bindings.filterMap Binding.named?) :
    Solver.extract? statement = bindings.findSome? Binding.solver? := by
  rw [Solver.extract?, same, ← List.head?_filterMap, List.filterMap_filterMap,
    List.head?_filterMap]
  rfl

/-- **The search answers with what the statement yields.**  In one direction the bindings come from
the functions that were tried, and in the other the functions from the bindings. -/
theorem extract?_eq_some_iff_yields {solver : Solver} :
    Solver.extract? statement = some solver ↔ ∃ call, Yields statement call solver := by
  constructor
  · intro found
    have some : inStatement statement ≠ [] := by
      intro none
      rw [Solver.extract?, none] at found
      cases found
    obtain ⟨bindings, binds, same⟩ := exists_binds some
    rw [extract?_eq_of_inStatement_eq same, List.findSome?_eq_some_iff] at found
    obtain ⟨before, binding, after, rfl, built, none⟩ := found
    obtain ⟨call, qualifies, builds⟩ := Binding.solver?_eq_some.mp built
    exact ⟨call, before, binding, after, binds,
      fun b member => Binding.solver?_eq_none.mp (none b member), qualifies, builds⟩
  · rintro ⟨call, before, binding, after, binds, none, qualifies, builds⟩
    have same := binds.inStatement_eq (by simp) qualifies
    rw [extract?_eq_of_inStatement_eq same, List.findSome?_eq_some_iff]
    exact ⟨before, binding, after, rfl, Binding.solver?_eq_some.mpr ⟨call, qualifies, builds⟩,
      fun b member => Binding.solver?_eq_none.mpr (none b member)⟩

end Statements

/-- **The search finds what a statement yields**, and nothing where no binding of the statement
holds a call. -/
theorem extract?_yields (statement : Json) :
    (∀ solver, Solver.extract? statement = some solver ↔ ∃ call, Yields statement call solver) ∧
      (Solver.extract? statement = none ↔
        ∀ bindings, Binds statement bindings → ∀ b ∈ bindings, ∀ call, ¬ b.Qualifies call) := by
  refine ⟨fun solver => extract?_eq_some_iff_yields, fun none bindings binds b member call => ?_,
    fun none => ?_⟩
  · intro qualifies
    rw [extract?_eq_of_inStatement_eq (binds.inStatement_eq member qualifies),
      List.findSome?_eq_none_iff] at none
    exact Binding.solver?_eq_none.mp (none b member) call qualifies
  · rw [Option.eq_none_iff_forall_ne_some]
    intro solver found
    obtain ⟨call, before, binding, after, binds, -, qualifies, -⟩ :=
      extract?_eq_some_iff_yields.mp found
    exact none _ binds binding (by simp) call qualifies

/-! ## A script -/

/-- `decodeURIComponent(b)`, the call that makes its function a decipher call.  Any name would do in
it, whether or not it is a parameter. -/
def decodedB : Json :=
  .object
    [("arguments", .array [identifierNode "b"]), ("callee", identifierNode textDecoder),
     ("type", .string "CallExpression")]

/-- The literal 3. -/
def three : Json := .object [("type", .string "Literal"), ("value", .ofNat 3)]

/-- `Xy(arguments)`. -/
def callXy (arguments : List Json) : Json :=
  .object
    [("arguments", .array arguments), ("callee", identifierNode "Xy"),
     ("type", .string "CallExpression")]

/-- `a && (b = call)`. -/
def guarded (call : Json) : Json :=
  .object
    [("expression", .object
      [("left", identifierNode "a"), ("operator", .string "&&"),
       ("right", .object
        [("expressions", .array [.object
          [("left", identifierNode "b"), ("operator", .string "="), ("right", call),
           ("type", .string "AssignmentExpression")]]),
         ("type", .string "SequenceExpression")]),
       ("type", .string "LogicalExpression")]),
     ("type", .string "ExpressionStatement")]

/-- `function F(a, b, c) { a && (b = Xy(arguments)); return b }`. -/
def functionF (arguments : List Json) : Json :=
  .object
    [("body", .object
      [("body", .array
        [guarded (callXy arguments),
         .object [("argument", identifierNode "b"), ("type", .string "ReturnStatement")]]),
       ("type", .string "BlockStatement")]),
     ("id", identifierNode "F"),
     ("params", .array [identifierNode "a", identifierNode "b", identifierNode "c"]),
     ("type", .string "FunctionDeclaration")]

/-- `Xy(first, sig)`. -/
def solverXy (first : Json) : Solver :=
  ⟨"F", identifierNode "Xy", [.preserved first, .parameter]⟩

/-- The function holds its call as long as one of the two arguments decodes, wherever this may be.
The solver keeps the first of them in any case. -/
theorem functionF_yields {first second : Json} {position : Nat}
    (decodes : DecodesAt [first, second] position) :
    Yields (functionF [first, second]) (callXy [first, second]) (solverXy first) := by
  have call : IsDecipherCall (callXy [first, second]) := ⟨rfl, .inl rfl, _, position, rfl, decodes⟩
  have guard : IsGuard (guarded (callXy [first, second])) (callXy [first, second]) :=
    ⟨rfl, rfl, rfl, rfl, ⟨_, [], rfl, rfl, rfl, rfl, rfl⟩, call⟩
  exact .first [] _ [] (.declared ⟨rfl, rfl⟩) nofun
    ⟨⟨"F", rfl⟩, ⟨_, rfl, rfl⟩, _, _, rfl, Nat.le_refl 2, rfl, .inl guard⟩
    ⟨rfl, rfl, first, [second], rfl, rfl⟩

theorem decodes_decodedB : IsDecodeCall decodedB := ⟨rfl, rfl, rfl, _, [], rfl, rfl⟩

end Decipher
