import Decipher.Cache.File
import Decipher.Cache.Memory
import Decipher.Pipeline.Stage

/-!
# A pipeline on disk

A store that lasts: sources are loaded from files, and preprocessed sources and solvers are
kept in files, all of them in one directory.  Only raw sources are kept in memory.
-/

namespace Decipher

structure DiskStore where
  files : FileTree
  raw : MemoryCache String := .empty
  runs : Nat := 0

namespace DiskStore

/-- The cache of preprocessed sources in a directory. -/
def preprocessedCache (dir : String) : FileCache String := ⟨dir, "preprocessed"⟩

/-- The cache of solvers in a directory. -/
def solverCache (dir : String) : FileCache SolverSet := ⟨dir, "solvers"⟩

/-- A file cache as a layer. -/
def layer {α : Type} [Storable α] (c : FileCache α) : Layer DiskStore α where
  get? s := c.get? s.files
  set s digest value := { s with files := c.set s.files digest value }

/-- The services of a store that lasts in `dir`. -/
def services (dir : String) (execute : String → Except PoolError String) :
    Services DiskStore where
  resolve := CacheKey.resolve dir
  load s key := (s.files.loadSource key.sourcePath, s)
  execute s source := (execute source, { s with runs := s.runs + 1 })
  raw := ⟨fun s => s.raw.get?, fun s digest source => { s with raw := s.raw.set digest source }⟩
  preprocessed := layer (preprocessedCache dir)
  solvers := layer (solverCache dir)

end DiskStore

end Decipher
