import Decipher.Cache.Key
import Decipher.Cache.Source
import Decipher.Pool.Error
import Decipher.Solver.Extract

/-!
# Errors of a solve

A solve fails at one of its stages: naming the script, loading it, preprocessing
it, or searching the result.
-/

namespace Decipher

inductive SolveError
  | resolution (e : ResolutionError)
  | load (e : LoadError)
  | preprocess (e : PoolError)
  | tree (e : TreeError)

namespace SolveError

def message : SolveError → String
  | resolution e => e.message
  | load e => e.message
  | preprocess e => "preprocessing failed: " ++ e.message
  | tree e => e.message

/-- Whether preprocessing took too long. -/
def isTimeout : SolveError → Bool
  | preprocess e => e.isTimeout
  | _ => false

/-- Whether the pool could not hand the payload to a slot. -/
def isSubmission : SolveError → Bool
  | preprocess e => e.isSubmission
  | _ => false

end SolveError

end Decipher
