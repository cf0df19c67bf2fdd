import Decipher.Cache.Key
import Decipher.Pipeline.Disk

/-!
# Caches side by side

Of each script two things are cached, its preprocessed text and its solvers.  Both kinds of
entries can be kept in one directory, or each kind in a memory cache of its own.  Either way a
value is put under the digest of an identity and asked for again, and `Shelf.run` records what
comes of a sequence of such requests.
-/

namespace Decipher

/-- What an entry holds. -/
inductive EntryKind
  | text
  | solvers
  deriving DecidableEq

namespace EntryKind

abbrev Value : EntryKind → Type
  | text => String
  | solvers => SolverSet

instance : (kind : EntryKind) → Storable kind.Value
  | text => inferInstanceAs (Storable String)
  | solvers => inferInstanceAs (Storable SolverSet)

/-- The entries of one kind in a directory. -/
def cache (dir : String) : (kind : EntryKind) → FileCache kind.Value
  | text => DiskStore.preprocessedCache dir
  | solvers => DiskStore.solverCache dir

end EntryKind

/-- Memory caches, one for each kind. -/
structure MemoryShelf where
  texts : MemoryCache String := .empty
  solvers : MemoryCache SolverSet := .empty

namespace MemoryShelf

def get? (m : MemoryShelf) : (kind : EntryKind) → String → Option kind.Value
  | .text, digest => m.texts.get? digest
  | .solvers, digest => m.solvers.get? digest

def set (m : MemoryShelf) : (kind : EntryKind) → String → kind.Value → MemoryShelf
  | .text, digest, text => { m with texts := m.texts.set digest text }
  | .solvers, digest, solvers => { m with solvers := m.solvers.set digest solvers }

end MemoryShelf

/-- What can be asked of caches. -/
inductive CacheRequest
  | get (kind : EntryKind) (identity : String)
  | set (kind : EntryKind) (identity : String) (value : kind.Value)

/-- What caches answer. -/
inductive CacheReply
  | found (kind : EntryKind) (value : Option kind.Value)
  | done

/-- What comes of a request. -/
structure CacheRecord (σ : Type) where
  request : CacheRequest
  reply : CacheReply
  before : σ
  after : σ

/-- Caches of both kinds in a store. -/
structure Shelf (σ : Type) where
  layer : (kind : EntryKind) → Layer σ kind.Value

namespace Shelf

/-- The caches in a directory. -/
def disk (dir : String) : Shelf FileTree where
  layer kind := ⟨(kind.cache dir).get?, (kind.cache dir).set⟩

/-- The caches in memory. -/
def memory : Shelf MemoryShelf where
  layer kind := ⟨fun m => m.get? kind, fun m => m.set kind⟩

variable {σ : Type}

/-- Answers one request. -/
def answer (shelf : Shelf σ) (s : σ) (request : CacheRequest) : CacheRecord σ :=
  match request with
  | .get kind identity =>
    { request, reply := .found kind ((shelf.layer kind).get? s (identityDigest identity)),
      before := s, after := s }
  | .set kind identity value =>
    { request, reply := .done,
      before := s, after := (shelf.layer kind).set s (identityDigest identity) value }

/-- Answers requests one after another. -/
def run (shelf : Shelf σ) (s : σ) : List CacheRequest → List (CacheRecord σ)
  | [] => []
  | request :: rest =>
    let record := shelf.answer s request
    record :: shelf.run record.after rest

end Shelf

end Decipher
