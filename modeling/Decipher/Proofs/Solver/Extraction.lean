import Decipher.Proofs.Solver.Description
import Decipher.Proofs.Solver.Entry
import Decipher.Script.Prune

/-!
# What is extracted can be stored

A solver is made of parts of the tree that it is found in.  They are well formed if the tree is,
and lie deep enough in it that the entry of the solver is not nested more deeply than the tree.
So the entry of a solver that was found in a text can be read back, as far as its numbers can.

The way to a solver leads from the program to a statement, to a function that it defines, to the
last statement but one of this function, and to the call in it.  There is one lemma for each of
these steps, which says how many brackets it opens.  Only those need be counted that are open on
every way, for a bound is all that is asked for.

* `Json.Fits.element`, `Json.Fits.among`, `Json.Fits.at`: steps into an array.
* `NamedFunction.fits_of_mem_inStatement`, `NamedFunction.fits_of_decipherCall?`: to a function
  and to the call in it.
* `Solver.fits_of_extractFromProgram?`: the way as a whole opens five brackets.
* `SolverSet.fits_of_ofProgramText`: the entry opens no more than that, so that it fits.

At the end there is a script with a number in it, for which all of this can be followed.  Numbers
are what does not come back unchanged: the text of a script is read once before its solver is
extracted, and the entry of the solver once more.
-/

namespace Decipher

namespace Json

variable {nesting : Nat} {v x : Json}

/-- An item of an array that stands at the end of a path is one bracket deeper than the array, and
one for each key on the way to it. -/
theorem Fits.element {keys : List String} {items : List Json} (fits : Fits nesting v)
    (array : v.array? keys = some items) (there : x ∈ items) :
    Fits (nesting - keys.length - 1) x :=
  (fits.path keys).item array there

/-- The same where a missing array counts as an empty one, which has no items to speak of. -/
theorem Fits.among {keys : List String} (fits : Fits nesting v)
    (there : x ∈ (v.array? keys).getD []) : Fits (nesting - keys.length - 1) x := by
  cases array : v.array? keys with
  | none =>
    rw [array] at there
    cases there
  | some items =>
    rw [array] at there
    exact fits.element array there

/-- What stands at an index is one bracket deeper, also where `null` stands for an item that is not
there. -/
theorem Fits.at (fits : Fits nesting v) (index : Nat) : Fits (nesting - 1) (v.item index) := by
  cases v with
  | array items =>
    cases found : items[index]? with
    | none => simpa [Json.item, found] using fits_null _
    | some y => simpa [Json.item, found] using fits.item rfl (List.mem_of_getElem? found)
  | _ => exact fits_null _

end Json

theorem mem_of_penultimate? {α : Type} {items : List α} {x : α}
    (found : penultimate? items = some x) : x ∈ items :=
  List.mem_reverse.mp (List.mem_of_getElem? found)

namespace NamedFunction

open Json

variable {nesting : Nat}

theorem function_of? {name function : Json} {f : NamedFunction}
    (named : of? name function = some f) : f.function = function := by
  obtain ⟨s, -, rfl⟩ := Option.map_eq_some_iff.mp named
  rfl

/-- A function lies in the statement that defines it, and is the statement itself if that is a
declaration.  How deep it lies does not matter: the bound for the statement holds for it in each of
the three shapes. -/
theorem fits_of_mem_inStatement {statement : Json} {f : NamedFunction}
    (fits : Fits nesting statement) (there : f ∈ inStatement statement) :
    Fits nesting f.function := by
  -- By the shape of the statement: none, an assignment, a declaration, or variables.
  unfold inStatement at there
  split at there
  · cases there
  · have named := function_of? (Option.mem_toList.mp there)
    rw [named]
    exact ((fits.get _).get _).mono (by omega)
  · have named := function_of? (Option.mem_toList.mp there)
    rw [named]
    exact fits
  · obtain ⟨declarator, among, found⟩ := List.mem_filterMap.mp there
    have declared := fits.among among
    unfold ofDeclarator? at found
    extract_lets at found
    split at found
    · rw [function_of? found]
      exact (declared.get _).mono (by omega)
    · cases found

theorem fits_of_guardedCall? {statement call : Json} (fits : Fits nesting statement)
    (found : guardedCall? statement = some call) : Fits nesting call := by
  unfold guardedCall? at found
  split at found
  · cases found
    exact (((fits.path _).at 0).get _).mono (by omega)
  · cases found

/-- So it does in the block of a conditional, where the declaration with the call is one of the
statements of the block. -/
theorem fits_of_conditionalCall? {statement call : Json} (fits : Fits nesting statement)
    (found : conditionalCall? statement = some call) : Fits nesting call := by
  unfold conditionalCall? at found
  split at found
  · simp only [Option.bind_eq_bind, Option.bind_eq_some_iff] at found
    obtain ⟨block, array, declaration, first, same⟩ := found
    cases same
    have declared := fits.element array (List.mem_of_find?_eq_some first)
    exact (((declared.get _).at 0).get _).mono (by omega)
  · cases found

/-- A decipher call lies in the body of its function, and is three brackets deeper: two for the path
to the statements and one for the list of them. -/
theorem fits_of_decipherCall? {f : NamedFunction} {call : Json} (fits : Fits nesting f.function)
    (found : f.decipherCall? = some call) : Fits (nesting - 3) call := by
  unfold decipherCall? at found
  simp only [Option.bind_eq_bind, Option.bind_eq_some_iff] at found
  obtain ⟨params, -, _, -, body, array, statement, last, either⟩ := found
  have among := fits.element array (mem_of_penultimate? last)
  cases guarded : guardedCall? statement with
  | some other =>
    rw [guarded] at either
    cases either
    exact fits_of_guardedCall? among guarded
  | none =>
    rw [guarded] at either
    exact fits_of_conditionalCall? among either

end NamedFunction

namespace Solver

open Json

variable {nesting : Nat} {s : Solver}

theorem Fits.mono {nesting' : Nat} (fits : s.Fits nesting) (le : nesting ≤ nesting') :
    s.Fits nesting' := by
  refine ⟨fits.callee.mono le, fun a there => ?_⟩
  have kept := fits.arguments a there
  cases a with
  | parameter => trivial
  | preserved node => exact Json.Fits.mono kept (by omega)

/-- A solver is made of parts of its call.  The arguments are items of a list in the call, and so
two brackets deeper, which is what storing them costs again. -/
theorem fits_of_ofCall? {name : String} {call : Json} (fits : call.Fits nesting)
    (made : ofCall? name call = some s) : s.Fits nesting := by
  have callee : (call.get "callee").Fits nesting := (fits.get _).mono (by omega)
  unfold ofCall? at made
  split at made
  · cases made
  · cases made
  · -- A parameter alone holds nothing of the tree.
    cases made
    refine ⟨callee, fun a there => ?_⟩
    rw [List.mem_singleton.mp there]
    trivial
  · rename_i first second others array
    cases made
    have kept : first.Fits (nesting - 2) := fits.element array List.mem_cons_self
    refine ⟨callee, fun a there => ?_⟩
    obtain rfl | there := List.mem_cons.mp there
    · exact kept
    · rw [List.mem_singleton.mp there]
      trivial

/-- **A solver lies five brackets deep in its program**: two for the list of statements, and three
for the call in the function that one of them defines. -/
theorem fits_of_extractFromProgram? {program : Json} (fits : program.Fits nesting)
    (found : extractFromProgram? program = some s) : s.Fits (nesting - 5) := by
  unfold extractFromProgram? at found
  obtain ⟨statement, among, found⟩ := List.exists_of_findSome?_eq_some found
  obtain ⟨f, defined, found⟩ := List.exists_of_findSome?_eq_some found
  obtain ⟨call, located, made⟩ := Option.bind_eq_some_iff.mp found
  have function := NamedFunction.fits_of_mem_inStatement (fits.among among) defined
  exact (fits_of_ofCall? (NamedFunction.fits_of_decipherCall? function located) made).mono
    (by simp only [List.length_singleton]; omega)

end Solver

/-- **The solvers of a text can be stored.**  Their entry opens four brackets around what is kept of
the text, and the text opened five.  So the entry is no deeper than the text, which the reader did
not refuse. -/
theorem SolverSet.fits_of_ofProgramText {text : String} {s : SolverSet}
    (found : ofProgramText text = .ok (some s)) : s.Fits Json.maxNesting := by
  unfold ofProgramText at found
  split at found
  · cases found
  · rename_i tree parsed
    split at found
    · cases found
    · obtain ⟨signature, extracted, rfl⟩ := Option.map_eq_some_iff.mp (Except.ok.inj found)
      exact (Solver.fits_of_extractFromProgram? (Json.fits_of_parse parsed) extracted).mono
        (by decide)

/-! ## A script with a number in it -/

/-- A number as a literal. -/
def numberNode (n : Number) : Json :=
  .object [("type", .string "Literal"), ("value", .number n)]

/-- `function F(a, b, c) { a && (b = Xy(n, decodeURIComponent(b))); return b }`, the least script
that has a solver.  Whatever the number is, it is the argument that the solver keeps. -/
def scriptXy (n : Number) : Json := Prune.program .null [functionF [numberNode n, decodedB]]

/-- The number is the only part of the script that can change on the way through a text. -/
theorem reread_scriptXy (n : Number) : (scriptXy n).reread = n.reread.map scriptXy := by
  simp only [scriptXy, Prune.program, functionF, guarded, callXy, decodedB, numberNode,
    identifierNode, Json.reread, Json.rereadItems, Json.rereadMembers]
  cases n.reread <;> rfl

/-- All members of all nodes of the script are in order. -/
theorem wellFormed_scriptXy {n : Number} (wellFormed : n.WellFormed) :
    (scriptXy n).WellFormed := by
  simp only [scriptXy, Prune.program, functionF, guarded, callXy, decodedB, numberNode,
    identifierNode, Json.WellFormed, Json.WellFormedItems, Json.WellFormedMembers, Json.Sorted,
    List.map_cons, List.map_nil, wellFormed, and_true, true_and]
  decide

variable {n m : Number}

/-- Of what is written of the script all comes back but the number, which is read again. -/
theorem parse_scriptXy (wellFormed : n.WellFormed) (read : n.reread = some m) :
    Json.parse (scriptXy n).text = .ok (scriptXy m) := by
  -- The depth does not depend on the number.
  have depth : (scriptXy n).depth = 15 := rfl
  have whole := Json.parse_text (wellFormed_scriptXy wellFormed) (depth ▸ by decide)
  rw [reread_scriptXy, read] at whole
  cases parses : Json.parse (scriptXy n).text with
  | error message =>
    rw [parses] at whole
    cases whole
  | ok tree =>
    rw [parses] at whole
    exact congrArg _ (Option.some.inj whole)

/-- The solver of the script has the number as it was read, and not as it was written. -/
theorem ofProgramText_scriptXy (wellFormed : n.WellFormed) (read : n.reread = some m) :
    SolverSet.ofProgramText (scriptXy n).text = .ok (some ⟨solverXy (numberNode m)⟩) := by
  rw [SolverSet.ofProgramText, parse_scriptXy wellFormed read]
  rfl

end Decipher
