import Decipher.Proofs.Pool.Ledger

/-!
# What a worker has to do

A job that was handed to a worker is outstanding until the dispatcher attends to the
worker's report: it is in the mailbox, or running, or reported by an event that waits.
`Pool.outstanding` lists the jobs of a slot that are outstanding, by their dispatches.

What the dispatcher thinks of a slot agrees with this list.  An idle slot has nothing
outstanding, and a slot that is busy or drains has one job, the one that it is taken by
(`run?_bounded`).  The dispatcher cannot look into the mailbox, nor at the worker; it is the
draining state that makes it wait for a report nobody else waits for.

Hence a worker never has two jobs, and there are never more transforms running than slots.

The list is the jobs of the worker, with the running one first, and behind them the reports that
the dispatcher has not seen.  It is not enough to say that the slot of a running transform is not
idle: this alone would not be kept, as a slot is freed by a report and not by the worker.  That the
list has at most one entry, and that of the right dispatch, is.

* `Engaged`: that the dispatcher's view is right, which every change keeps (`Change.engaged`).
* `Bounded`: what follows for slots, mailboxes and workers.
* `overtaken`: a run in which a timer is quicker than a worker, so that the slot drains.
-/

namespace Decipher

open Relation

/-- The jobs that a worker has and has not finished.  The one that it runs comes first. -/
def Slot.jobs (s : Slot) : List Job := s.running.toList ++ s.mailbox

/-- The dispatch that an event reports to be completed by a slot. -/
def PoolEvent.completes? (slot : Nat) : PoolEvent → Option Nat
  | completed there dispatch _ => if there = slot then some dispatch else none
  | timedOut _ _ => none

@[simp] theorem PoolEvent.completes?_completed (slot dispatch : Nat) (report : Report) :
    (completed slot dispatch report).completes? slot = some dispatch := if_pos rfl

theorem PoolEvent.completes?_completed_of_ne {slot there : Nat} (apart : slot ≠ there)
    (dispatch : Nat) (report : Report) :
    (completed there dispatch report).completes? slot = none := if_neg (Ne.symm apart)

@[simp] theorem PoolEvent.completes?_timedOut (slot there dispatch : Nat) :
    (timedOut there dispatch).completes? slot = none := rfl

/-- A slot that loses the dispatcher still has a worker with jobs. -/
@[simp] theorem Slot.jobs_abandon (s : Slot) : s.abandon.jobs = s.jobs := by
  unfold abandon
  split <;> rfl

@[simp] theorem Slot.dispatch?_abandon (s : Slot) :
    s.abandon.state.dispatch? = s.state.dispatch? := by
  unfold abandon
  cases state : s.state <;> simp [state]

namespace Pool

variable {p q : Pool}

/-- The dispatches of a slot that were reported and not attended to. -/
def reported (p : Pool) (slot : Nat) : List Nat := p.events.filterMap (·.completes? slot)

/-- The dispatches of a slot that are outstanding.  A job is so until its report has been attended
to, and not only until the worker is done with it. -/
def outstanding (p : Pool) (slot : Nat) (s : Slot) : List Nat :=
  s.jobs.map Job.dispatch ++ p.reported slot

/-! ## The dispatcher's view is right -/

/-- **What is outstanding on a slot is what the slot is taken by.**  It is an equation of lists, so
that nothing is outstanding on an idle slot, and on any other just one dispatch. -/
def Engaged (p : Pool) : Prop :=
  ∀ slot s, p.slots[slot]? = some s → p.outstanding slot s = s.state.dispatch?.toList

/-- A slot that is idle has nothing outstanding: no job waits for its worker, none runs, and no
report of it waits. -/
theorem Engaged.idle (engaged : p.Engaged) {slot : Nat} {s : Slot}
    (found : p.slots[slot]? = some s) (idle : s.state = .idle) :
    s.running = none ∧ s.mailbox = [] ∧ p.reported slot = [] := by
  have nothing := engaged slot s found
  rw [idle] at nothing
  simpa [outstanding, Slot.jobs, and_assoc] using nothing

/-- What is outstanding at all is all that is outstanding. -/
theorem Engaged.only (engaged : p.Engaged) {slot dispatch : Nat} {s : Slot}
    (found : p.slots[slot]? = some s) (member : dispatch ∈ p.outstanding slot s) :
    s.state.dispatch? = some dispatch ∧ p.outstanding slot s = [dispatch] := by
  have one := engaged slot s found
  rw [one, Option.mem_toList] at member
  exact ⟨member, by rw [one, member, Option.toList_some]⟩

/-- A worker that runs a job has no other, and has reported nothing. -/
theorem Engaged.running (engaged : p.Engaged) {slot : Nat} {s : Slot} {job : Job}
    (found : p.slots[slot]? = some s) (runs : s.running = some job) :
    s.state.dispatch? = some job.dispatch ∧ s.mailbox = [] ∧ p.reported slot = [] := by
  have there : job.dispatch ∈ p.outstanding slot s := by simp [outstanding, Slot.jobs, runs]
  obtain ⟨taken, one⟩ := engaged.only found there
  refine ⟨taken, ?_⟩
  simpa [outstanding, Slot.jobs, runs] using one

/-- A worker that has a job in its mailbox has no other, and has reported nothing.  So no worker is
handed a job before it was done with the last one. -/
theorem Engaged.waiting (engaged : p.Engaged) {slot : Nat} {s : Slot} {job : Job}
    (found : p.slots[slot]? = some s) (waits : job ∈ s.mailbox) :
    s.mailbox = [job] ∧ s.running = none ∧ p.reported slot = [] := by
  have there : job.dispatch ∈ p.outstanding slot s := by
    simp only [outstanding, Slot.jobs, List.map_append, List.mem_append, List.mem_map]
    exact Or.inl (Or.inr ⟨job, waits, rfl⟩)
  obtain ⟨-, one⟩ := engaged.only found there
  have short := congrArg List.length one
  have filled : 0 < s.mailbox.length := List.length_pos_of_mem waits
  simp only [outstanding, Slot.jobs, List.length_append, List.length_map,
    List.length_singleton] at short
  have single : s.mailbox.length = 1 := by omega
  have free : s.running.toList.length = 0 := by omega
  have silent : (p.reported slot).length = 0 := by omega
  obtain ⟨only, same⟩ := List.length_eq_one_iff.mp single
  rw [same, List.mem_singleton] at waits
  refine ⟨by rw [same, waits], ?_, List.length_eq_zero_iff.mp silent⟩
  simpa using free

/-- A job whose report waits to be attended to is all that its worker had. -/
theorem Engaged.completed (engaged : p.Engaged) {slot dispatch : Nat} {s : Slot}
    {report : Report} {rest : List PoolEvent}
    (told : p.events = .completed slot dispatch report :: rest)
    (found : p.slots[slot]? = some s) :
    s.state.dispatch? = some dispatch ∧ s.jobs = [] ∧
      rest.filterMap (·.completes? slot) = [] := by
  have there : dispatch ∈ p.outstanding slot s := by simp [outstanding, reported, told]
  obtain ⟨taken, one⟩ := engaged.only found there
  refine ⟨taken, ?_⟩
  have short := congrArg List.length one
  simp only [outstanding, reported, told, List.filterMap_cons, PoolEvent.completes?_completed,
    List.length_append, List.length_map, List.length_cons, List.length_nil] at short
  exact ⟨List.length_eq_zero_iff.mp (by omega), List.length_eq_zero_iff.mp (by omega)⟩

/-- Attending to a report frees the slot, on which nothing else was outstanding. -/
theorem Engaged.freed (engaged : p.Engaged) {slot dispatch : Nat} {s : Slot} {report : Report}
    (found : p.slots[slot]? = some s)
    (told : p.events = .completed slot dispatch report :: q.events)
    (slots : q.slots = p.slots.set slot { s with state := .idle }) : q.Engaged := by
  obtain ⟨-, done, silent⟩ := engaged.completed told found
  intro other t found'
  rw [slots] at found'
  rcases Slot.eq_or_of_getElem?_set found' with ⟨rfl, rfl⟩ | ⟨apart, same⟩
  · simpa [outstanding, reported, silent, Slot.jobs] using done
  · simpa [outstanding, reported, told, PoolEvent.completes?_completed_of_ne apart]
      using engaged other t same

theorem start_engaged {concurrency timeout : Nat} {starts : Nat → Bool}
    (h : start concurrency timeout starts = .ok p) : p.Engaged := by
  intro slot s found
  obtain ⟨idle, empty, free⟩ := start_slot h found
  obtain ⟨-, rfl⟩ := start_eq_ok h
  simp [outstanding, Slot.jobs, reported, idle, empty, free]

/-- A slot that is assigned a task has that one job, or still none.  It was idle, and so nothing was
outstanding on it before. -/
theorem Assigns.engaged {slot : Nat} (assigns : Assigns p slot q) (engaged : p.Engaged) :
    q.Engaged := by
  intro other t found'
  cases assigns with
  | hand s generation calls task rest active waiting found idle =>
      obtain ⟨free, empty, silent⟩ := engaged.idle found idle
      rcases Slot.eq_or_of_getElem?_set found' with ⟨rfl, rfl⟩ | ⟨-, same⟩
      · -- The new job is the only one, because the idle slot had none.
        simpa [outstanding, Slot.jobs, free, empty, reported] using silent
      · exact engaged other t same
  | refuse s task rest active waiting found idle unstaffed fails =>
      rcases Slot.eq_or_of_getElem?_set found' with ⟨rfl, rfl⟩ | ⟨-, same⟩
      · exact engaged other s found
      · exact engaged other t same

/-- The dispatcher's view stays right.  A job goes from the mailbox to the desk and from there into
an event, which is one way through the list, and at its end the slot is freed. -/
theorem Change.engaged (change : Change p q) (engaged : p.Engaged) : q.Engaged := by
  cases change with
  | assign slot assigns => exact assigns.engaged engaged
  | report slot s dispatch task report rest active told found busy =>
      exact engaged.freed found told rfl
  | release slot s dispatch report rest active told found draining =>
      exact engaged.freed found told rfl
  | overrun slot s dispatch task rest active told found busy =>
      -- The owner is told, but the job stays where it is and keeps its slot.
      intro other t found'
      rcases Slot.eq_or_of_getElem?_set found' with ⟨rfl, rfl⟩ | ⟨apart, same⟩
      · simpa [outstanding, reported, told, busy, Slot.jobs, List.filterMap_cons]
          using engaged other s found
      · simpa [outstanding, reported, told, List.filterMap_cons] using engaged other t same
  | ignore event rest active told stale =>
      intro slot s found
      cases event with
      | completed there dispatch report =>
          by_cases same : slot = there
          · -- A report about this slot is never stale: its dispatch is outstanding.
            subst same
            exact absurd (engaged.completed told found).1 (stale s found)
          · simpa [outstanding, reported, told, PoolEvent.completes?_completed_of_ne same]
              using engaged slot s found
      | timedOut there dispatch =>
          simpa [outstanding, reported, told, List.filterMap_cons] using engaged slot s found
  | begin slot s job rest found staffed free waiting =>
      intro other t found'
      rcases Slot.eq_or_of_getElem?_set found' with ⟨rfl, rfl⟩ | ⟨apart, same⟩
      · simpa [outstanding, Slot.jobs, free, waiting, reported] using engaged other s found
      · exact engaged other t same
  | finish slot s job report found runs =>
      intro other t found'
      rcases Slot.eq_or_of_getElem?_set found' with ⟨rfl, rfl⟩ | ⟨apart, same⟩
      · -- The job was all that was outstanding, so that its place in the list does not change.
        obtain ⟨taken, empty, silent⟩ := engaged.running found runs
        simp only [reported] at silent
        simp [outstanding, Slot.jobs, reported, empty, silent, taken]
      · simpa [outstanding, reported, PoolEvent.completes?_completed_of_ne apart]
          using engaged other t same
  | expire timer armed =>
      intro slot s found
      simpa [outstanding, reported, List.filterMap_cons] using engaged slot s found
  | stop active =>
      intro slot t found
      simp only [Pool.stop, List.getElem?_map, Option.map_eq_some_iff] at found
      obtain ⟨s, there, rfl⟩ := found
      simpa [outstanding, reported, Pool.stop] using engaged slot s there
  | _ => exact engaged

/-! ## The bound -/

/-- Where a job of a slot comes from: the slot had it, or was idle and is handed it now. -/
theorem SlotChange.jobs {slot : Nat} {s t : Slot} (became : SlotChange p q slot s t) {job : Job}
    (member : job ∈ t.jobs) :
    job ∈ s.jobs ∨ (s.state = .idle ∧ job.dispatch = p.assignments.length) := by
  cases became with
  | hand generation task idle noted =>
      rw [Slot.jobs, ← List.append_assoc, List.mem_append, List.mem_singleton] at member
      rcases member with before | rfl
      · exact Or.inl before
      · exact Or.inr ⟨idle, rfl⟩
  | begin first rest free waiting =>
      exact Or.inl (by simpa [Slot.jobs, free, waiting] using member)
  | finish done report runs noted =>
      exact Or.inl (List.mem_append_right _ (by simpa [Slot.jobs] using member))
  | abandon => exact Or.inl (by simpa using member)
  | _ => exact Or.inl member

/-- **How a pool of so many slots keeps its workers.**  No worker has more than one job, and no more
workers run than there are slots. -/
structure Bounded (concurrency : Nat) (p : Pool) : Prop where
  idle : ∀ slot s, p.slots[slot]? = some s → s.state = .idle →
    s.mailbox = [] ∧ s.running = none ∧ p.reported slot = []
  /-- A slot that is busy or drains has one job outstanding, the one that it is taken by. -/
  taken : ∀ slot s dispatch, p.slots[slot]? = some s → s.state.dispatch? = some dispatch →
    p.outstanding slot s = [dispatch]
  /-- A worker is handed a job only when nothing is outstanding. -/
  handed : ∀ q slot s t job, Change p q → p.slots[slot]? = some s → q.slots[slot]? = some t →
    job ∈ t.jobs → job ∉ s.jobs → p.outstanding slot s = []
  /-- A worker that runs a job keeps its slot from being idle. -/
  running : (p.slots.countP fun s => s.running.isSome) ≤ p.slots.countP fun s => !s.state.isIdle
  bound : (p.slots.countP fun s => !s.state.isIdle) ≤ concurrency

/-- The bound follows from the dispatcher's view, at whatever moment it is right.  Slots that are
not idle are counted, and each worker that runs a job has one of them to itself. -/
theorem Engaged.bounded (engaged : p.Engaged) : Bounded p.slots.length p := by
  refine ⟨fun slot s found idle => ?_, fun slot s dispatch found taken => ?_,
    fun q slot s t job change found found' member new => ?_, ?_, List.countP_le_length⟩
  · obtain ⟨free, empty, silent⟩ := engaged.idle found idle
    exact ⟨empty, free, silent⟩
  · rw [engaged slot s found, taken, Option.toList_some]
  · obtain ⟨s', there, became⟩ := change.slot found'
    obtain rfl : s = s' := Option.some.inj (found.symm.trans there)
    rcases became.jobs member with before | ⟨idle, -⟩
    · exact absurd before new
    · rw [engaged slot s found, idle]
      rfl
  · refine List.countP_mono_left fun s member runs => ?_
    obtain ⟨slot, found⟩ := List.getElem?_of_mem member
    obtain ⟨job, works⟩ := Option.isSome_iff_exists.mp runs
    obtain ⟨taken, -⟩ := engaged.running found works
    cases state : s.state with
    | idle => simp [state] at taken
    | _ => rfl

/-- **There are never more jobs than slots, and never two on a slot.**  This holds after each
move, and also after each of the changes that the next move consists of. -/
theorem run?_bounded {r : Pool} {concurrency timeout : Nat} {starts : Nat → Bool}
    {moves : List PoolMove} (hstart : start concurrency timeout starts = .ok p)
    (h : p.run? moves = some q) (within : ReflTransGen Change q r) : Bounded concurrency r := by
  have changes := (run?_changes h).trans within
  have engaged : r.Engaged := changes_induction changes (start_engaged hstart) Change.engaged
  have length : r.slots.length = p.slots.length :=
    changes_induction (P := fun r => r.slots.length = p.slots.length) changes rfl
      fun change same => change.length_slots.trans same
  rw [start_length_slots hstart] at length
  rw [← length]
  exact engaged.bounded

/-- A pool of one slot that has done nothing yet. -/
def solo : Pool := { timeout := 30, slots := [{}], calls := 1 }

/-- A run in which a timer is quicker than the worker: the owner of the first payload is told
before the worker is done, and the second payload has to wait for the slot. -/
def overtaken : List PoolMove :=
  [.submit "slow", .submit "quick", .receive, .receive, .begin 0, .expire ⟨0, 0⟩, .attend,
    .finish 0 (.ok "late"), .attend, .begin 0, .finish 0 (.ok "in time"), .attend]

/-- While the slot drains its worker still runs the first job, and the second waits. -/
theorem overtaken_bounded :
    ∃ p q, start 1 30 = .ok p ∧ p.run? (overtaken.take 7) = some q ∧ Bounded 1 q ∧
      q.slots = [{ state := .draining 0, running := some ⟨0, "slow"⟩ }] ∧
      q.queue = [⟨1, "quick"⟩] := by
  have starts : start 1 30 = .ok solo := rfl
  have ends : ((solo.run? (overtaken.take 7)).map fun q => (q.slots, q.queue)) =
      some ([{ state := .draining 0, running := some ⟨0, "slow"⟩ }], [⟨1, "quick"⟩]) := rfl
  obtain ⟨q, run, same⟩ := Option.map_eq_some_iff.mp ends
  obtain ⟨slots, queue⟩ := Prod.mk.inj same
  exact ⟨solo, q, starts, run, run?_bounded starts run ReflTransGen.refl, slots, queue⟩

end Pool

end Decipher
