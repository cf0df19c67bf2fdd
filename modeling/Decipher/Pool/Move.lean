import Decipher.Pool.Turn

/-!
# Moves of a pool

What happens to a pool happens in moves, one at a time, and which of the moves that can
happen is the next one is up to nobody: owners, workers and timers are independent of each
other.  `Pool.step?` says when a move can happen and what comes of it.  A run of a pool is
any sequence of moves that can happen one after another.
-/

namespace Decipher

/-- What can happen to a pool.  Owners submit and leave, the dispatcher receives and attends,
workers begin and finish, timers expire, and the dispatcher may be stopped. -/
inductive PoolMove
  | submit (payload : String)
  /-- The last owner leaves. -/
  | leave
  /-- The dispatcher takes the oldest task from the channel, or learns that there will be
  no more. -/
  | receive
  /-- The dispatcher attends to the oldest event. -/
  | attend
  /-- A worker begins the oldest job in its mailbox. -/
  | begin (slot : Nat)
  /-- A worker finishes what it runs. -/
  | finish (slot : Nat) (report : Report)
  | expire (timer : Timer)
  | stop

namespace Slot

/-- The slot after its worker began the oldest job in the mailbox. -/
def begin? (s : Slot) : Option Slot :=
  match s.staffed, s.running, s.mailbox with
  | true, none, job :: rest => some { s with mailbox := rest, running := some job }
  | _, _, _ => none

/-- The job that a worker runs, and the slot after the worker finished it. -/
def finish? (s : Slot) : Option (Job × Slot) :=
  s.running.map fun job => (job, { s with running := none })

end Slot

namespace Pool

/-- Submits a payload.  If the dispatcher is gone, the answer is there at once. -/
def submit (p : Pool) (payload : String) : Pool :=
  let ticket := p.payloads.length
  let p := { p with payloads := p.payloads ++ [payload] }
  if p.phase = .active then { p with channel := p.channel ++ [⟨ticket, payload⟩] }
  else p.tell ticket (.error .closed)

/-- The pool after a move, if the move can happen. -/
def step? (p : Pool) : PoolMove → Option Pool
  | .submit payload => if p.owned then some (p.submit payload) else none
  | .leave => if p.owned then some { p with owned := false } else none
  | .receive =>
    if p.phase = .active then
      match p.channel with
      | task :: rest => some { p with channel := rest, queue := p.queue ++ [task] }.settle
      | [] =>
        if p.listening && !p.owned then some { p with listening := false }.settle else none
    else none
  | .attend =>
    if p.phase = .active then
      match p.events with
      | event :: rest => some ({ p with events := rest }.attend event).settle
      | [] => none
    else none
  | .begin slot =>
    ((p.slots[slot]?).bind Slot.begin?).map fun s => { p with slots := p.slots.set slot s }
  | .finish slot report =>
    ((p.slots[slot]?).bind Slot.finish?).map fun (job, s) =>
      { p with
        slots := p.slots.set slot s
        events := p.events ++ [.completed slot job.dispatch report]
        reports := p.reports ++ [(job, report)] }
  | .expire timer =>
    if timer ∈ p.timers ∨ timer ∈ p.halted then
      some
        { p with
          timers := p.timers.filter (· ≠ timer)
          halted := p.halted.filter (· ≠ timer)
          events := p.events ++ [.timedOut timer.slot timer.dispatch] }
    else none
  | .stop => if p.phase = .active then some p.stop else none

/-- The pool after a sequence of moves, if they can happen one after another. -/
def run? (p : Pool) : List PoolMove → Option Pool
  | [] => some p
  | move :: rest => (p.step? move).bind fun p => p.run? rest

end Pool

end Decipher
