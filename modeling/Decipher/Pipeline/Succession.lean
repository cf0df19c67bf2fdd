import Decipher.Pipeline.Memory

/-!
# Calls in succession

Calls for solvers that are made one after another share a store in memory.  How a source is
loaded and what preprocessing makes of it can differ from call to call.  Each call leaves a
record: what it came to, what it asked of others, and the store before and after it.
-/

namespace Decipher

/-- What a call asked of others, and what it was told. -/
inductive Deed
  | load (key : CacheKey) (answer : Except LoadError String)
  | execute (source : String) (answer : Except PoolError String)

/-- A layer of a store that stands beside something else. -/
def Layer.beside {σ α : Type} (β : Type) (layer : Layer σ α) : Layer (σ × β) α where
  get? s := layer.get? s.1
  set s digest value := (layer.set s.1 digest value, s.2)

/-- Services that write down what is asked of them. -/
def Services.logged {σ : Type} (services : Services σ) : Services (σ × List Deed) where
  resolve := services.resolve
  load s key :=
    let (answer, store) := services.load s.1 key
    (answer, store, s.2 ++ [.load key answer])
  execute s source :=
    let (answer, store) := services.execute s.1 source
    (answer, store, s.2 ++ [.execute source answer])
  raw := services.raw.beside (List Deed)
  preprocessed := services.preprocessed.beside (List Deed)
  solvers := services.solvers.beside (List Deed)

/-- A call, with the answers that it will get if it asks. -/
structure Visit where
  identity : String
  load : CacheKey → Except LoadError String
  execute : String → Except PoolError String

/-- What a call leaves behind. -/
structure VisitRecord where
  identity : String
  solution : Solution
  deeds : List Deed
  before : MemoryStore
  after : MemoryStore

namespace Visit

/-- What is done for a call. -/
def services (dir : String) (v : Visit) : Services MemoryStore :=
  MemoryStore.serve dir (fun _ => v.load) fun _ => v.execute

/-- Makes a call. -/
def run (dir : String) (v : Visit) (store : MemoryStore) : VisitRecord :=
  let (solution, after, deeds) := (v.services dir).logged.solve (store, []) v.identity
  { identity := v.identity, solution, deeds, before := store, after }

/-- Makes calls one after another. -/
def runAll (dir : String) (store : MemoryStore) : List Visit → List VisitRecord
  | [] => []
  | v :: rest =>
    let record := v.run dir store
    record :: runAll dir record.after rest

end Visit

end Decipher
