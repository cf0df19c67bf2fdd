import Decipher.Cache.Memory
import Decipher.Pipeline.Stage

/-!
# A pipeline in memory

A store that is held in memory as a whole: the sources that can be loaded and the three
layers of caches.  It counts how often a source was loaded and how often one was
preprocessed.
-/

namespace Decipher

structure MemoryStore where
  /-- The sources that can be loaded. -/
  sources : MemoryCache String := .empty
  raw : MemoryCache String := .empty
  preprocessed : MemoryCache String := .empty
  solvers : MemoryCache SolverSet := .empty
  loads : Nat := 0
  runs : Nat := 0

namespace MemoryStore

/-- The source under a key.  One that is not there is missing. -/
def find (s : MemoryStore) (key : CacheKey) : Except LoadError String :=
  match s.sources.get? key.digest with
  | some source => .ok source
  | none => .error ⟨key.sourcePath, "missing"⟩

/-- The services of a store whose sources belong in `dir`, given how a source is loaded and
how it is preprocessed. -/
def serve (dir : String) (load : MemoryStore → CacheKey → Except LoadError String)
    (execute : MemoryStore → String → Except PoolError String) : Services MemoryStore where
  resolve := CacheKey.resolve dir
  load s key := (load s key, { s with loads := s.loads + 1 })
  execute s source := (execute s source, { s with runs := s.runs + 1 })
  raw := ⟨fun s => s.raw.get?, fun s digest source => { s with raw := s.raw.set digest source }⟩
  preprocessed :=
    ⟨fun s => s.preprocessed.get?,
      fun s digest text => { s with preprocessed := s.preprocessed.set digest text }⟩
  solvers :=
    ⟨fun s => s.solvers.get?,
      fun s digest solvers => { s with solvers := s.solvers.set digest solvers }⟩

/-- The services of a store that loads the sources that it holds. -/
def services (dir : String) (execute : String → Except PoolError String) :
    Services MemoryStore := serve dir find fun _ => execute

end MemoryStore

end Decipher
