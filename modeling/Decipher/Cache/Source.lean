import Decipher.Files.Tree

/-!
# Sources of scripts

The source of a script is what the file at the path in its key holds.
-/

namespace Decipher

/-- A source that could not be loaded, and why. -/
structure LoadError where
  path : String
  reason : String
  deriving DecidableEq

def LoadError.message (e : LoadError) : String := "cannot read " ++ e.path ++ ": " ++ e.reason

/-- The source at a path. -/
def FileTree.loadSource (t : FileTree) (path : String) : Except LoadError String :=
  (t.readText path).mapError fun e => ⟨path, e.message⟩

end Decipher
