import Decipher.Pipeline.Memory
import Decipher.Pool.Verdict

/-!
# Many calls at once

Calls for solvers share a store and know nothing of each other.  What happens to them
happens in moves, one at a time and in any order: somebody asks for the solvers of a script,
a call takes its next step, or a cache drops an entry.

Where sources come from, and what preprocessing makes of them, does not change meanwhile.
This alone says what the solvers of a script are (`Origin.solve`); the store only saves the
work of finding it out again.
-/

namespace Decipher

/-- Where the contents of a store come from. -/
structure Origin where
  /-- The directory that sources belong in. -/
  dir : String
  /-- Loads the source under a key, which in one directory is known by its digest. -/
  load : CacheKey → Except LoadError String
  transform : String → Verdict

namespace Origin

/-! ## Without a store -/

/-- The source of a script. -/
def source (o : Origin) (key : CacheKey) : Except SolveError String :=
  (o.load key).mapError .load

/-- What preprocessing makes of a source. -/
def preprocess (o : Origin) (source : String) : Except SolveError String :=
  (o.transform source).report.answer.mapError .preprocess

/-- The solvers in a preprocessed source. -/
def extract (text : String) : Solution := (SolverSet.ofProgramText text).mapError .tree

/-- The preprocessed source of a script. -/
def text (o : Origin) (key : CacheKey) : Except SolveError String :=
  (o.source key).bind o.preprocess

/-- The solvers of a script. -/
def solution (o : Origin) (key : CacheKey) : Solution := (o.text key).bind extract

/-- The solvers of a script, asked for by its identity. -/
def solve (o : Origin) (identity : String) : Solution :=
  ((CacheKey.resolve o.dir identity).mapError .resolution).bind o.solution

/-! ## With a store -/

/-- What a store does for a call whose task the pool runs or turns away. -/
def services (o : Origin) (rejection : Option PoolError) : Services MemoryStore :=
  MemoryStore.serve o.dir (fun _ => o.load) fun _ source =>
    match rejection with
    | some e => .error e
    | none => (o.transform source).report.answer

end Origin

inductive CacheLayer
  | raw
  | preprocessed
  | solvers

/-- Drops what a layer has under a digest. -/
def MemoryStore.evict (s : MemoryStore) (digest : String) : CacheLayer → MemoryStore
  | .raw => { s with raw := s.raw.erase digest }
  | .preprocessed => { s with preprocessed := s.preprocessed.erase digest }
  | .solvers => { s with solvers := s.solvers.erase digest }

/-- A call on its way. -/
structure Call where
  identity : String
  stage : Stage
  /-- Why the pool turned its task away, if it did. -/
  rejection : Option PoolError := none

namespace Call

/-- A call that has done nothing yet. -/
def ask (identity : String) : Call := { identity, stage := .resolving identity }

/-- Whether a call can be treated so: only a task that was submitted can be turned away. -/
def admits (c : Call) (rejection : Option PoolError) : Bool :=
  match rejection, c.stage with
  | none, _ => true
  | some e, .preprocessing _ _ => e.isRejection
  | some _, _ => false

/-- Takes the next step of a call. -/
def advance (o : Origin) (store : MemoryStore) (rejection : Option PoolError) (c : Call) :
    Call × MemoryStore :=
  let (stage, store) := c.stage.step (o.services rejection) store
  ({ c with stage, rejection := rejection.or c.rejection }, store)

end Call

structure Traffic where
  store : MemoryStore := {}
  calls : List Call := []

/-- What can happen to traffic. -/
inductive TrafficMove
  | ask (identity : String)
  /-- A call takes its next step.  If this is to submit its source, the pool may turn it
  away. -/
  | advance (index : Nat) (rejection : Option PoolError)
  | evict (digest : String) (layer : CacheLayer)

namespace Traffic

/-- The traffic after a move, if the move can happen. -/
def step? (o : Origin) (t : Traffic) : TrafficMove → Option Traffic
  | .ask identity => some { t with calls := t.calls ++ [.ask identity] }
  | .advance index rejection =>
    match t.calls[index]? with
    | some c =>
      if c.admits rejection then
        let (c, store) := c.advance o t.store rejection
        some { store, calls := t.calls.set index c }
      else none
    | none => none
  | .evict digest layer => some { t with store := t.store.evict digest layer }

/-- The traffic after a sequence of moves, if they can happen one after another. -/
def run? (o : Origin) (t : Traffic) : List TrafficMove → Option Traffic
  | [] => some t
  | move :: rest => (t.step? o move).bind fun t => t.run? o rest

end Traffic

end Decipher
