import Decipher.Pool.Verdict

/-!
# Worker pools

A pool runs a transform on payloads, on a fixed number of slots, each with a worker of
its own that runs one job at a time.  A dispatcher stands between the owners of the
payloads and the slots.

A payload that is submitted becomes a task.  A task waits in the channel until the
dispatcher receives it, and in the queue until a slot is idle.  Then it is dispatched:
the slot is handed a job that carries the number of the dispatch, and a timer starts.
What workers and timers have to say comes back to the dispatcher as events, in any order;
an event names the slot and the dispatch that it is about, so that one that comes too
late is told from one that is awaited.

When a timer expires, the owner is told at once and the flag of the dispatch is raised,
but the slot is not free: it drains until its worker returns.  So there is never more than
one job on a slot.

A worker may fail to start.  Its slot stays idle, and each task that comes to it has the
dispatcher send for a worker once more.  A worker that started stays for as long as there
is a dispatcher, so that a job that is handed over is never lost.

Dispatches are numbered without end; a counter of 64 bits would do as well.
-/

namespace Decipher

/-- A payload on its way through a pool.  Tickets number the submissions. -/
structure Task where
  ticket : Nat
  payload : String
  deriving DecidableEq

/-- What a slot's worker is handed. -/
structure Job where
  dispatch : Nat
  payload : String
  deriving DecidableEq

/-- What the dispatcher knows of a slot. -/
inductive SlotState
  | idle
  /-- The slot works on a task. -/
  | busy (dispatch : Nat) (task : Task)
  /-- The slot works on something that nobody waits for any more. -/
  | draining (dispatch : Nat)
  deriving DecidableEq

/-- A slot and its worker. -/
structure Slot where
  /-- How often a worker was sent for after the first time. -/
  generation : UInt32 := 0
  /-- Whether there is a worker. -/
  staffed : Bool := true
  state : SlotState := .idle
  /-- The jobs that the worker was handed and has not begun. -/
  mailbox : List Job := []
  /-- The job that the worker runs. -/
  running : Option Job := none
  deriving DecidableEq

/-- What the dispatcher is told by workers and timers. -/
inductive PoolEvent
  | completed (slot dispatch : Nat) (report : Report)
  | timedOut (slot dispatch : Nat)

/-- That a task was handed to a slot. -/
structure Assignment where
  slot : Nat
  task : Task
  deriving DecidableEq

/-- A timer that has not expired. -/
structure Timer where
  slot : Nat
  dispatch : Nat
  deriving DecidableEq

/-- How a pool fares. -/
inductive PoolPhase
  | active
  /-- All owners are gone and all work is done. -/
  | drained
  /-- The dispatcher was stopped from outside. -/
  | stopped
  deriving DecidableEq

structure Pool where
  /-- How long a task may take, in milliseconds. -/
  timeout : Nat
  slots : List Slot
  /-- Whether a worker starts when it is sent for, time after time. -/
  starts : Nat → Bool := fun _ => true
  /-- How often a worker was sent for. -/
  calls : Nat := 0
  /-- The payloads of all tasks that were ever submitted; a ticket is an index. -/
  payloads : List String := []
  /-- Whether there are owners who can submit. -/
  owned : Bool := true
  /-- The tasks that were submitted and not received, oldest first. -/
  channel : List Task := []
  /-- Whether the dispatcher has not yet learnt that there are no owners. -/
  listening : Bool := true
  /-- The tasks that were received and not dispatched, oldest first. -/
  queue : List Task := []
  /-- All dispatches that were ever made; the number of a dispatch is an index. -/
  assignments : List Assignment := []
  timers : List Timer := []
  /-- The timers that were stopped.  One that was about to expire may still do so. -/
  halted : List Timer := []
  /-- What the dispatcher was told and has not attended to, oldest first. -/
  events : List PoolEvent := []
  /-- All reports that workers ever gave, with the jobs that they are about. -/
  reports : List (Job × Report) := []
  /-- The dispatches whose cancel flag is raised. -/
  raised : List Nat := []
  /-- All answers that were ever given, with the tickets that they are for. -/
  answers : List (Nat × Answer) := []
  phase : PoolPhase := .active

namespace SlotState

def isIdle : SlotState → Bool
  | idle => true
  | _ => false

/-- The task that a slot works on, if somebody waits for it. -/
def task? : SlotState → Option Task
  | busy _ task => some task
  | _ => none

end SlotState

namespace Pool

/-- A pool of idle slots.  A worker is sent for once for each of them. -/
def start (concurrency timeout : Nat) (starts : Nat → Bool := fun _ => true) :
    Except PoolError Pool :=
  if concurrency = 0 then .error .noSlots
  else
    .ok
      { timeout
        slots := (List.range concurrency).map fun slot => { staffed := starts slot }
        starts
        calls := concurrency }

/-- The number of slots. -/
def concurrency (p : Pool) : Nat := p.slots.length

/-- What the owner of a task was told. -/
def answer? (p : Pool) (ticket : Nat) : Option Answer := p.answers.lookup ticket

/-- Tells the owner of a task. -/
def tell (p : Pool) (ticket : Nat) (answer : Answer) : Pool :=
  { p with answers := p.answers ++ [(ticket, answer)] }

/-- Notes what the dispatcher knows of a slot. -/
def setState (p : Pool) (slot : Nat) (state : SlotState) : Pool :=
  { p with slots := p.slots.modify slot fun s => { s with state := state } }

/-- What the dispatcher knows of a slot. -/
def state? (p : Pool) (slot : Nat) : Option SlotState := (p.slots[slot]?).map Slot.state

/-- Whether a slot has a worker. -/
def isStaffed (p : Pool) (slot : Nat) : Bool := (p.slots[slot]?).any Slot.staffed

/-- The lowest slot that is idle. -/
def idleSlot? (p : Pool) : Option Nat := p.slots.findIdx? fun s => s.state.isIdle

/-- Whether no slot works. -/
def allIdle (p : Pool) : Bool := p.slots.all fun s => s.state.isIdle

/-- Whether the flag of a dispatch is raised. -/
def isRaised (p : Pool) (dispatch : Nat) : Bool := p.raised.contains dispatch

/-- The tasks whose owners wait: first those that slots work on, then the queue, then the
channel. -/
def unanswered (p : Pool) : List Task :=
  (p.slots.filterMap fun s => s.state.task?) ++ p.queue ++ p.channel

end Pool

end Decipher
