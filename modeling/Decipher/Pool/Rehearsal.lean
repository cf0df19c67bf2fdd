import Decipher.Pool.Behaviour

/-!
# Rehearsals

A rehearsal is one run of a pool, with scripted transforms and an owner who follows cues.
Of the many runs that there are it takes the one in which whatever can happen at once does,
and time passes only while the owner waits and nothing else can happen.

Dispatches that were made without time passing between them time out together.
-/

namespace Decipher

structure Rehearsal where
  pool : Pool
  /-- The jobs that were begun, in order. -/
  begun : List Job := []
  released : List String := []
  /-- The tickets of the handles that the owner got, unless they were waited on. -/
  handles : List (Option Nat) := []
  /-- How often time has passed. -/
  clock : Nat := 0
  /-- For each dispatch what the clock showed when it was made. -/
  times : List Nat := []

/-- What an owner is told to do. -/
inductive Cue
  | submit (payload : String)
  /-- Waits for the answer to a handle. -/
  | wait (handle : Nat)
  /-- Submits and waits. -/
  | execute (payload : String)
  | release (name : String)
  /-- Waits until the transform of a payload has begun. -/
  | awaitStarted (payload : String)
  | leave
  | shutDown

/-- What comes of a cue. -/
inductive CueOutcome
  | handle (index : Nat)
  | answer (a : Answer)
  | noHandle
  | released (name : String)
  | started (payload : String)
  /-- There is no pool to submit to. -/
  | gone
  | left
  | shutDown
  /-- What was waited for never comes. -/
  | never

namespace Rehearsal

/-- A rehearsal with a pool that has done nothing yet. -/
def start (concurrency timeout : Nat) : Except PoolError Rehearsal :=
  (Pool.start concurrency timeout).map fun pool => { pool }

/-! ## What happens at once -/

/-- How many a job asks for that came to meet under a name and was not called away. -/
def comesFor? (r : Rehearsal) (name : String) (job : Job) : Option Nat :=
  match Behaviour.ofPayload job.payload with
  | .meets there count _ =>
    if there = name ∧ !r.pool.isRaised job.dispatch then some count else none
  | _ => none

/-- Whether so many came to meet under a name as one of them asks for. -/
def isMet (r : Rehearsal) (name : String) : Bool :=
  let counts := r.begun.filterMap (r.comesFor? name)
  counts.any fun count => count ≤ counts.length

/-- What the worker of a slot sees while it runs a job. -/
def surroundings (r : Rehearsal) (index : Nat) (slot : Slot) (job : Job) :
    Behaviour.Surroundings where
  slot := index
  generation := slot.generation
  cancelled := r.pool.isRaised job.dispatch
  released := r.released
  isMet := r.isMet

/-- The next move of a slot's worker, if it does not wait. -/
def workerMove? (r : Rehearsal) (index : Nat) (slot : Slot) : Option PoolMove :=
  match slot.running with
  | some job =>
    ((Behaviour.ofPayload job.payload).verdict? (r.surroundings index slot job)).map fun verdict =>
      .finish index verdict.report
  | none => if slot.mailbox.isEmpty then none else some (.begin index)

/-- The first worker's move that there is, of slots from `index` on. -/
def anyWorkerMove? (r : Rehearsal) (index : Nat) : List Slot → Option PoolMove
  | [] => none
  | slot :: rest =>
    match r.workerMove? index slot with
    | some move => some move
    | none => r.anyWorkerMove? (index + 1) rest

/-- What happens next if no time passes.  The dispatcher is quicker than the workers. -/
def nextMove? (r : Rehearsal) : Option PoolMove :=
  if (r.pool.step? .attend).isSome then some .attend
  else if (r.pool.step? .receive).isSome then some .receive
  else r.anyWorkerMove? 0 r.pool.slots

/-- Makes a move, if it can happen, and keeps the books. -/
def make (r : Rehearsal) (move : PoolMove) : Rehearsal :=
  match r.pool.step? move with
  | none => r
  | some pool =>
    let begun := match move with
      | .begin slot => ((r.pool.slots[slot]?).bind fun s => s.mailbox.head?).toList
      | _ => []
    let made := pool.assignments.length - r.times.length
    { r with
      pool
      begun := r.begun ++ begun
      times := r.times ++ List.replicate made r.clock }

/-- Lets happen what happens next, so often. -/
def settleWithin : Nat → Rehearsal → Rehearsal
  | 0, r => r
  | fuel + 1, r =>
    match r.nextMove? with
    | none => r
    | some move => settleWithin fuel (r.make move)

/-- How many moves can follow each other without time passing: a task is received, begun and
finished once, and both events that it can lead to are attended to. -/
def moveBound (p : Pool) : Nat := 6 * p.payloads.length + 6

/-- Lets everything happen that happens at once. -/
def settle (r : Rehearsal) : Rehearsal := settleWithin (moveBound r.pool) r

/-! ## Waiting -/

/-- The timers that expire next: the oldest, and those as old. -/
def dueTimers (r : Rehearsal) : List Timer :=
  match r.pool.timers with
  | [] => []
  | oldest :: _ =>
    r.pool.timers.filter fun timer => r.times[timer.dispatch]? == r.times[oldest.dispatch]?

/-- Lets time pass up to the next timers. -/
def passTime (r : Rehearsal) : Rehearsal :=
  let r := r.dueTimers.foldl (fun r timer => r.make (.expire timer)) r
  settle { r with clock := r.clock + 1 }

/-- Waits until `result?` has a result.  The fuel bounds how often time can pass. -/
def awaitWithin {α : Type} (result? : Rehearsal → Option α) :
    Nat → Rehearsal → Option α × Rehearsal
  | 0, r => (result? r, r)
  | fuel + 1, r =>
    match result? r with
    | some x => (some x, r)
    | none =>
      if r.dueTimers.isEmpty then (none, r) else awaitWithin result? fuel r.passTime

/-- Waits until `result?` has a result, or until nothing can happen any more. -/
def awaitResult {α : Type} (r : Rehearsal) (result? : Rehearsal → Option α) :
    Option α × Rehearsal :=
  awaitWithin result? (r.pool.payloads.length + 1) r.settle

/-- Waits for the answer to a ticket. -/
def awaitAnswer (r : Rehearsal) (ticket : Nat) : CueOutcome × Rehearsal :=
  match r.awaitResult fun r => r.pool.answer? ticket with
  | (some a, r) => (.answer a, r)
  | (none, r) => (.never, r)

/-! ## Cues -/

/-- Submits a payload, if there is a pool to submit to. -/
def submit (r : Rehearsal) (payload : String) : Option (Nat × Rehearsal) :=
  if r.pool.owned then some (r.pool.payloads.length, (r.make (.submit payload)).settle)
  else none

/-- Waits on a handle.  It cannot be waited on again. -/
def wait (r : Rehearsal) (handle : Nat) : CueOutcome × Rehearsal :=
  match r.handles[handle]? with
  | some (some ticket) =>
    awaitAnswer { r with handles := r.handles.set handle none } ticket
  | _ => (.noHandle, r)

/-- Follows a cue. -/
def follow (r : Rehearsal) : Cue → CueOutcome × Rehearsal
  | .submit payload =>
    match r.submit payload with
    | some (ticket, r) =>
      (.handle r.handles.length, { r with handles := r.handles ++ [some ticket] })
    | none => (.gone, r)
  | .wait handle => r.wait handle
  | .execute payload =>
    match r.submit payload with
    | some (ticket, r) => r.awaitAnswer ticket
    | none => (.gone, r)
  | .release name => (.released name, settle { r with released := r.released ++ [name] })
  | .awaitStarted payload =>
    match r.awaitResult fun r => r.begun.find? fun job => job.payload == payload with
    | (some job, r) => (.started job.payload, r)
    | (none, r) => (.never, r)
  | .leave => (.left, (r.make .leave).settle)
  | .shutDown => (.shutDown, (r.make .stop).settle)

/-- Follows cues one after another. -/
def followAll (r : Rehearsal) : List Cue → List CueOutcome × Rehearsal
  | [] => ([], r)
  | cue :: rest =>
    let (outcome, r) := r.follow cue
    let (outcomes, r) := r.followAll rest
    (outcome :: outcomes, r)

/-- The names that are released at the end. -/
def finalNames : List String := ["A", "B", "C", "D"]

/-- Ends a rehearsal: releases names and waits on all handles that were not waited on. -/
def conclude (r : Rehearsal) : List CueOutcome × Rehearsal :=
  let (_, r) := r.followAll (finalNames.map .release)
  let waiting := (List.range r.handles.length).filter fun i => (r.handles[i]?).join.isSome
  r.followAll (waiting.map .wait)

/-- The payloads whose transforms were begun: in order if there is one slot, else sorted,
because then the order is up to the workers. -/
def started (r : Rehearsal) : List String :=
  let payloads := r.begun.map Job.payload
  if r.pool.concurrency ≤ 1 then payloads else payloads.mergeSort (· ≤ ·)

end Rehearsal

end Decipher
