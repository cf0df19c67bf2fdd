import Decipher.Pool.Basic

/-!
# Turns of a dispatcher

The dispatcher works in turns.  In each it takes one thing in, a submission or an event,
and then hands out as much work as it can.
-/

namespace Decipher

namespace Pool

/-! ## Handing out work -/

/-- Sends for a worker, if a slot has none. -/
def staff (p : Pool) (slot : Nat) : Pool :=
  if p.isStaffed slot then p
  else
    { p with
      slots := p.slots.modify slot fun s =>
        { s with generation := s.generation + 1, staffed := p.starts p.calls }
      calls := p.calls + 1 }

/-- Notes that a task is dispatched to a slot. -/
def note (p : Pool) (slot : Nat) (task : Task) : Pool :=
  { p with assignments := p.assignments ++ [⟨slot, task⟩] }

/-- Hands a slot its worker's next job and starts the timer. -/
def hand (p : Pool) (slot dispatch : Nat) (task : Task) : Pool :=
  let take (s : Slot) : Slot :=
    { s with
      state := .busy dispatch task
      mailbox := s.mailbox ++ [⟨dispatch, task.payload⟩] }
  { p with
    slots := p.slots.modify slot take
    timers := p.timers ++ [⟨slot, dispatch⟩] }

/-- Why a task cannot be handed to a slot. -/
def noWorker : String := "slot has no running worker"

/-- Dispatches a task to an idle slot.  If no worker can be had, the owner is told. -/
def assign (p : Pool) (slot : Nat) (task : Task) : Pool :=
  let staffed := p.staff slot
  if staffed.isStaffed slot then
    (staffed.note slot task).hand slot p.assignments.length task
  else (staffed.note slot task).tell task.ticket (.error (.submission slot noWorker))

@[simp] theorem assign_queue (p : Pool) (slot : Nat) (task : Task) :
    (p.assign slot task).queue = p.queue := by
  simp only [assign, staff]
  repeat' split
  all_goals rfl

@[simp] theorem assign_phase (p : Pool) (slot : Nat) (task : Task) :
    (p.assign slot task).phase = p.phase := by
  simp only [assign, staff]
  repeat' split
  all_goals rfl

@[simp] theorem assign_payloads (p : Pool) (slot : Nat) (task : Task) :
    (p.assign slot task).payloads = p.payloads := by
  simp only [assign, staff]
  repeat' split
  all_goals rfl

@[simp] theorem assign_reports (p : Pool) (slot : Nat) (task : Task) :
    (p.assign slot task).reports = p.reports := by
  simp only [assign, staff]
  repeat' split
  all_goals rfl

/-- Hands waiting tasks to idle slots, the oldest task to the lowest slot, until one of
the two runs out. -/
def assignAll (p : Pool) : List Task → Pool
  | [] => { p with queue := [] }
  | task :: rest =>
    match p.idleSlot? with
    | none => { p with queue := task :: rest }
    | some slot => ({ p with queue := rest }.assign slot task).assignAll rest

/-- What neither the queue nor an assignment touches, dispatching leaves alone. -/
theorem assignAll_same {α : Type} (f : Pool → α)
    (queue : ∀ (p : Pool) (tasks : List Task), f { p with queue := tasks } = f p)
    (assign : ∀ (p : Pool) (slot : Nat) (task : Task), f (p.assign slot task) = f p)
    (p : Pool) (tasks : List Task) : f (p.assignAll tasks) = f p := by
  induction tasks generalizing p with
  | nil => exact queue p []
  | cons task rest ih =>
    unfold assignAll
    split
    · exact queue p (task :: rest)
    · rw [ih, assign, queue]

@[simp] theorem assignAll_phase (p : Pool) (tasks : List Task) :
    (p.assignAll tasks).phase = p.phase :=
  assignAll_same phase (fun _ _ => rfl) assign_phase p tasks

@[simp] theorem assignAll_payloads (p : Pool) (tasks : List Task) :
    (p.assignAll tasks).payloads = p.payloads :=
  assignAll_same payloads (fun _ _ => rfl) assign_payloads p tasks

@[simp] theorem assignAll_reports (p : Pool) (tasks : List Task) :
    (p.assignAll tasks).reports = p.reports :=
  assignAll_same reports (fun _ _ => rfl) assign_reports p tasks

/-- Closes the dispatcher's turn: it dispatches what it can, and ends if there is nothing
left to wait for. -/
def settle (p : Pool) : Pool :=
  let p := p.assignAll p.queue
  if !p.listening && p.queue.isEmpty && p.allIdle then { p with phase := .drained } else p

@[simp] theorem settle_payloads (p : Pool) : p.settle.payloads = p.payloads := by
  simp only [settle]
  split <;> simp

@[simp] theorem settle_reports (p : Pool) : p.settle.reports = p.reports := by
  simp only [settle]
  split <;> simp

/-! ## Attending to events -/

/-- Stops a timer, unless it has expired. -/
def stopTimer (p : Pool) (timer : Timer) : Pool :=
  { p with
    timers := p.timers.filter (· ≠ timer)
    halted := p.halted ++ p.timers.filter (· = timer) }

/-- Raises the flag of a dispatch. -/
def raise (p : Pool) (dispatch : Nat) : Pool := { p with raised := p.raised ++ [dispatch] }

/-- What the dispatcher does about an event.  The report of a busy slot goes to the task's
owner; that of a draining slot only frees the slot.  A timer that expires on a busy slot
raises the flag and leaves the slot draining.  All else comes too late and means
nothing. -/
def attend (p : Pool) : PoolEvent → Pool
  | .completed slot dispatch report =>
    match p.state? slot with
    | some (.busy current task) =>
      if current = dispatch then
        ((p.setState slot .idle).stopTimer ⟨slot, dispatch⟩).tell task.ticket report.answer
      else p
    | some (.draining current) => if current = dispatch then p.setState slot .idle else p
    | _ => p
  | .timedOut slot dispatch =>
    match p.state? slot with
    | some (.busy current task) =>
      if current = dispatch then
        ((p.setState slot (.draining dispatch)).raise dispatch).tell task.ticket
          (.error (.timeout p.timeout))
      else p
    | _ => p

@[simp] theorem attend_phase (p : Pool) (event : PoolEvent) :
    (p.attend event).phase = p.phase := by
  cases event <;> simp only [attend] <;> repeat' split
  all_goals rfl

@[simp] theorem attend_payloads (p : Pool) (event : PoolEvent) :
    (p.attend event).payloads = p.payloads := by
  cases event <;> simp only [attend] <;> repeat' split
  all_goals rfl

@[simp] theorem attend_reports (p : Pool) (event : PoolEvent) :
    (p.attend event).reports = p.reports := by
  cases event <;> simp only [attend] <;> repeat' split
  all_goals rfl

end Pool

/-! ## The end of a dispatcher -/

/-- A slot whose dispatcher is gone: nobody waits for its work any more. -/
def Slot.abandon (s : Slot) : Slot :=
  match s.state with
  | .busy dispatch _ => { s with state := .draining dispatch }
  | _ => s

/-- Stops the dispatcher.  All who wait are told that the pool is closed. -/
def Pool.stop (p : Pool) : Pool :=
  { p with
    phase := .stopped
    slots := p.slots.map Slot.abandon
    queue := []
    channel := []
    timers := []
    halted := []
    answers := p.answers ++ p.unanswered.map fun task => (task.ticket, .error .closed) }

end Decipher
