import Decipher.Pool.Move
import Mathlib.Logic.Basic
import Mathlib.Logic.Relation

/-!
# Changes of a pool

A move of a pool can do much at once: the dispatcher takes in one event, frees a slot,
dispatches as many tasks as there are idle slots, and may find that it is done.  What is
kept by all of this is easier to see on smaller steps.

`Change p q` lists these steps, each with the condition under which it happens and the
pool that it leaves behind.  Inside a turn of the dispatcher the steps are its own; the
others are moves of owners, workers and timers.

* `Assigns`: what becomes of the pool when a slot is assigned a task, which is one of the changes.
* `HandOut`: an assignment as the dispatcher makes it, to the lowest of the idle slots.
* `step?_step`: when a move can happen, and what comes of it.
* `step?_changes`: a move is one change or several.
* `run?_induction`: what every change keeps holds at all times of every run.
* `Change.log`: submissions, assignments, reports and answers are only ever added.

Everything else that is said about runs of a pool is derived from these.

There are three grains.  A run is made of moves, and `step?` says which of them can happen; a move
of the dispatcher is a turn, which begins with one thing that is taken in and ends when nothing is
left to hand out; and a change is one of the things that happen in a turn.  Most invariants hold
after each change, and are proved so, with one case for each constructor of `Change`.  A few hold
only between turns (`run?_move_induction`), as that no task waits beside an idle slot.

The constructors say everything that a change does, guards included, so that no proof after this
module opens `Pool.step?` or `Pool.settle` to find out what happened.
-/

namespace Decipher

open Relation

/-! ## Slots -/

/-- The dispatch that a slot is taken by.  A slot that drains is still taken, though it owes no
answer. -/
def SlotState.dispatch? : SlotState → Option Nat
  | idle => none
  | busy dispatch _ => some dispatch
  | draining dispatch => some dispatch

@[simp] theorem SlotState.dispatch?_idle : SlotState.idle.dispatch? = none := rfl

@[simp] theorem SlotState.dispatch?_busy (dispatch : Nat) (task : Task) :
    (SlotState.busy dispatch task).dispatch? = some dispatch := rfl

@[simp] theorem SlotState.dispatch?_draining (dispatch : Nat) :
    (SlotState.draining dispatch).dispatch? = some dispatch := rfl

/-- A slot that drains is not idle.  The dispatcher looks for idle slots only, so it passes this one
by. -/
theorem SlotState.draining_ne_idle (dispatch : Nat) : draining dispatch ≠ idle :=
  fun same => by cases same

theorem SlotState.isIdle_iff {state : SlotState} : state.isIdle = true ↔ state = .idle := by
  cases state <;> simp [isIdle]

/-- What stands at a place of a list of slots of which one was replaced. -/
theorem Slot.eq_or_of_getElem?_set {slots : List Slot} {slot other : Nat} {s t : Slot}
    (found : (slots.set slot s)[other]? = some t) :
    (other = slot ∧ t = s) ∨ (other ≠ slot ∧ slots[other]? = some t) := by
  rw [List.getElem?_set] at found
  by_cases same : slot = other
  · rw [if_pos same] at found
    split at found
    · exact Or.inl ⟨same.symm, (Option.some.inj found).symm⟩
    · cases found
  · rw [if_neg same] at found
    exact Or.inr ⟨Ne.symm same, found⟩

/-- Changing what stands at a place, if one knows what stands there. -/
theorem Slot.modify_eq_set {slots : List Slot} {slot : Nat} {s : Slot}
    (found : slots[slot]? = some s) (f : Slot → Slot) :
    slots.modify slot f = slots.set slot (f s) := by
  apply List.ext_getElem?
  intro other
  rw [List.getElem?_modify, List.getElem?_set]
  by_cases same : slot = other
  · subst same
    have bound : slot < slots.length := (List.getElem?_eq_some_iff.mp found).1
    rw [found]
    simp [bound]
  · simp [same]

/-- Replacing a slot by one in the same state is not seen in the states. -/
theorem Slot.map_state_set {slots : List Slot} {slot : Nat} {s t : Slot}
    (found : slots[slot]? = some s) (same : t.state = s.state) :
    (slots.set slot t).map Slot.state = slots.map Slot.state := by
  apply List.ext_getElem?
  intro other
  rw [List.getElem?_map, List.getElem?_map, List.getElem?_set]
  by_cases here : slot = other
  · subst here
    have bound : slot < slots.length := (List.getElem?_eq_some_iff.mp found).1
    rw [if_pos rfl, if_pos bound, found, Option.map_some, Option.map_some, same]
  · rw [if_neg here]

namespace Pool

/-- An event that nobody waits for any more: its slot is not taken by its dispatch, or only
drains. -/
def Stale (p : Pool) : PoolEvent → Prop
  | .completed slot dispatch _ =>
    ∀ s, p.slots[slot]? = some s → s.state.dispatch? ≠ some dispatch
  | .timedOut slot dispatch =>
    ∀ s, p.slots[slot]? = some s → ∀ task, s.state ≠ .busy dispatch task

/-! ## The changes -/

/-- An idle slot is assigned the oldest task in the queue, under the next number.  If the slot has
no worker and none comes, the task is noted all the same, and its owner is told. -/
inductive Assigns (p : Pool) (slot : Nat) : Pool → Prop
  | hand (s : Slot) (generation : UInt32) (calls : Nat) (task : Task) (rest : List Task)
      (active : p.phase = .active) (waiting : p.queue = task :: rest)
      (found : p.slots[slot]? = some s) (idle : s.state = .idle) :
    Assigns p slot
      { p with
        queue := rest
        slots := p.slots.set slot
          { generation
            staffed := true
            state := .busy p.assignments.length task
            mailbox := s.mailbox ++ [⟨p.assignments.length, task.payload⟩]
            running := s.running }
        calls
        assignments := p.assignments ++ [⟨slot, task⟩]
        timers := p.timers ++ [⟨slot, p.assignments.length⟩] }
  | refuse (s : Slot) (task : Task) (rest : List Task)
      (active : p.phase = .active) (waiting : p.queue = task :: rest)
      (found : p.slots[slot]? = some s) (idle : s.state = .idle)
      (unstaffed : s.staffed = false) (fails : p.starts p.calls = false) :
    Assigns p slot
      { p with
        queue := rest
        slots := p.slots.set slot { s with generation := s.generation + 1, staffed := false }
        calls := p.calls + 1
        assignments := p.assignments ++ [⟨slot, task⟩]
        answers := p.answers ++ [(task.ticket, .error (.submission slot noWorker))] }

/-- A single step of what can happen to a pool.  Which idle slot is assigned a task is left open
here: most of what is kept does not depend on it, and `HandOut` says which one it is. -/
inductive Change (p : Pool) : Pool → Prop
  | submit (payload : String) (owned : p.owned = true) (active : p.phase = .active) :
    Change p
      { p with
        payloads := p.payloads ++ [payload]
        channel := p.channel ++ [⟨p.payloads.length, payload⟩] }
  | reject (payload : String) (owned : p.owned = true) (gone : p.phase ≠ .active) :
    Change p
      { p with
        payloads := p.payloads ++ [payload]
        answers := p.answers ++ [(p.payloads.length, .error .closed)] }
  | leave (owned : p.owned = true) : Change p { p with owned := false }
  | receive (task : Task) (rest : List Task) (active : p.phase = .active)
      (waiting : p.channel = task :: rest) :
    Change p { p with channel := rest, queue := p.queue ++ [task] }
  | close (active : p.phase = .active) (waiting : p.channel = [])
      (listening : p.listening = true) (owned : p.owned = false) :
    Change p { p with listening := false }
  | assign (slot : Nat) {q : Pool} (assigns : Assigns p slot q) : Change p q
  | drain (active : p.phase = .active) (listening : p.listening = false)
      (waiting : p.queue = []) (idle : p.allIdle = true) :
    Change p { p with phase := .drained }
  | report (slot : Nat) (s : Slot) (dispatch : Nat) (task : Task) (report : Report)
      (rest : List PoolEvent) (active : p.phase = .active)
      (told : p.events = .completed slot dispatch report :: rest)
      (found : p.slots[slot]? = some s) (busy : s.state = .busy dispatch task) :
    Change p
      { p with
        events := rest
        slots := p.slots.set slot { s with state := .idle }
        timers := p.timers.filter (· ≠ ⟨slot, dispatch⟩)
        halted := p.halted ++ p.timers.filter (· = ⟨slot, dispatch⟩)
        answers := p.answers ++ [(task.ticket, report.answer)] }
  | release (slot : Nat) (s : Slot) (dispatch : Nat) (report : Report)
      (rest : List PoolEvent) (active : p.phase = .active)
      (told : p.events = .completed slot dispatch report :: rest)
      (found : p.slots[slot]? = some s) (draining : s.state = .draining dispatch) :
    Change p
      { p with
        events := rest
        slots := p.slots.set slot { s with state := .idle } }
  | overrun (slot : Nat) (s : Slot) (dispatch : Nat) (task : Task) (rest : List PoolEvent)
      (active : p.phase = .active) (told : p.events = .timedOut slot dispatch :: rest)
      (found : p.slots[slot]? = some s) (busy : s.state = .busy dispatch task) :
    Change p
      { p with
        events := rest
        slots := p.slots.set slot { s with state := .draining dispatch }
        raised := p.raised ++ [dispatch]
        answers := p.answers ++ [(task.ticket, .error (.timeout p.timeout))] }
  | ignore (event : PoolEvent) (rest : List PoolEvent) (active : p.phase = .active)
      (told : p.events = event :: rest) (stale : p.Stale event) :
    Change p { p with events := rest }
  | begin (slot : Nat) (s : Slot) (job : Job) (rest : List Job)
      (found : p.slots[slot]? = some s) (staffed : s.staffed = true)
      (free : s.running = none) (waiting : s.mailbox = job :: rest) :
    Change p
      { p with slots := p.slots.set slot { s with mailbox := rest, running := some job } }
  | finish (slot : Nat) (s : Slot) (job : Job) (report : Report)
      (found : p.slots[slot]? = some s) (runs : s.running = some job) :
    Change p
      { p with
        slots := p.slots.set slot { s with running := none }
        events := p.events ++ [.completed slot job.dispatch report]
        reports := p.reports ++ [(job, report)] }
  | expire (timer : Timer) (armed : timer ∈ p.timers ∨ timer ∈ p.halted) :
    Change p
      { p with
        timers := p.timers.filter (· ≠ timer)
        halted := p.halted.filter (· ≠ timer)
        events := p.events ++ [.timedOut timer.slot timer.dispatch] }
  | stop (active : p.phase = .active) : Change p p.stop

variable {p q : Pool}

/-! ## Handing out -/

/-- A single step of handing out work: of the idle slots it is the lowest that is assigned the
oldest task. -/
inductive HandOut (p q : Pool) : Prop
  | assign (slot : Nat) (assigns : Assigns p slot q)
      (lowest : ∀ other < slot, ∀ t, p.slots[other]? = some t → t.state ≠ .idle)

/-- To hand out work is to assign a task, of which `Change` leaves the slot open. -/
theorem HandOut.change (out : HandOut p q) : Change p q := by
  obtain ⟨slot, assigns, -⟩ := out
  exact Change.assign slot assigns

/-- Only a dispatcher that is there assigns tasks, and it does not leave over it. -/
theorem Assigns.active {slot : Nat} (assigns : Assigns p slot q) : p.phase = .active := by
  cases assigns <;> assumption

theorem Assigns.payloads {slot : Nat} (assigns : Assigns p slot q) : q.payloads = p.payloads := by
  cases assigns <;> rfl

/-- An assignment is made to an idle slot.  No other slot changes, and the task, which was the
oldest in the queue, is noted as that slot's. -/
theorem Assigns.chosen {slot : Nat} (assigns : Assigns p slot q) :
    ∃ s t task, p.slots[slot]? = some s ∧ s.state = .idle ∧ p.queue = task :: q.queue ∧
      q.slots = p.slots.set slot t ∧ q.assignments = p.assignments ++ [⟨slot, task⟩] := by
  cases assigns with
  | hand s generation calls task rest active waiting found idle =>
      exact ⟨s, _, task, found, idle, waiting, rfl, rfl⟩
  | refuse s task rest active waiting found idle unstaffed fails =>
      exact ⟨s, _, task, found, idle, waiting, rfl, rfl⟩

/-- The slot that is looked for is the lowest of the idle ones. -/
theorem idleSlot?_eq_some {slot : Nat} (h : p.idleSlot? = some slot) :
    ∃ s, p.slots[slot]? = some s ∧ s.state = .idle ∧
      ∀ other < slot, ∀ t, p.slots[other]? = some t → t.state ≠ .idle := by
  obtain ⟨bound, idle, lowest⟩ := List.findIdx?_eq_some_iff_getElem.mp h
  refine ⟨p.slots[slot], List.getElem?_eq_getElem bound, SlotState.isIdle_iff.mp idle, ?_⟩
  intro other before t found idle
  obtain ⟨_, rfl⟩ := List.getElem?_eq_some_iff.mp found
  exact lowest other before (SlotState.isIdle_iff.mpr idle)

/-- Dispatching the oldest task to the lowest idle slot is one step, whether or not a worker has
to be sent for, and whether or not one comes. -/
theorem assign_handOut {slot : Nat} {task : Task} {rest : List Task}
    (active : p.phase = .active) (waiting : p.queue = task :: rest)
    (chosen : p.idleSlot? = some slot) :
    HandOut p ({ p with queue := rest }.assign slot task) := by
  obtain ⟨s, found, idle, lowest⟩ := idleSlot?_eq_some chosen
  refine HandOut.assign slot ?_ lowest
  have bound : slot < p.slots.length := (List.getElem?_eq_some_iff.mp found).1
  -- A worker is sent for only if there is none, and only then can the task be refused.
  cases staffed : s.staffed with
  | true =>
      have same : { p with queue := rest }.staff slot = { p with queue := rest } := by
        simp [staff, isStaffed, found, staffed]
      have there : { p with queue := rest }.isStaffed slot = true := by
        simp [isStaffed, found, staffed]
      have target := Assigns.hand s s.generation p.calls task rest active waiting found idle
      simp only [assign, same, there, if_true, note, hand, Slot.modify_eq_set found]
      rwa [← staffed] at target
  | false =>
      have sent : { p with queue := rest }.staff slot =
          { p with
            queue := rest
            slots := p.slots.set slot
              { s with generation := s.generation + 1, staffed := p.starts p.calls }
            calls := p.calls + 1 } := by
        simp [staff, isStaffed, found, staffed, Slot.modify_eq_set found]
      have again : (p.slots.set slot
          { s with generation := s.generation + 1, staffed := p.starts p.calls })[slot]? =
            some { s with generation := s.generation + 1, staffed := p.starts p.calls } :=
        List.getElem?_set_self bound
      cases starts : p.starts p.calls with
      | true =>
          have target := Assigns.hand s (s.generation + 1) (p.calls + 1) task rest active waiting
            found idle
          rw [starts] at sent again
          simp only [assign, sent, isStaffed, again, Option.any_some, if_true, note, hand,
            Slot.modify_eq_set again, List.set_set]
          exact target
      | false =>
          rw [starts] at sent again
          simp only [assign, sent, isStaffed, again, Option.any_some, Bool.false_eq_true,
            if_false, note, tell]
          exact Assigns.refuse s task rest active waiting found idle staffed starts

/-- Waiting tasks are handed out one by one.  The queue is part of the pool at every moment, so
that it can be spoken of too. -/
theorem assignAll_handOuts (tasks : List Task) :
    ∀ {p : Pool}, p.phase = .active → p.queue = tasks →
      ReflTransGen HandOut p (p.assignAll tasks) := by
  induction tasks with
  | nil =>
      intro p _ waiting
      have same : p.assignAll [] = p := by simp [assignAll, ← waiting]
      rw [same]
  | cons task rest ih =>
      intro p active waiting
      cases chosen : p.idleSlot? with
      | none =>
          have same : p.assignAll (task :: rest) = p := by
            simp [assignAll, chosen, ← waiting]
          rw [same]
      | some slot =>
          have first := assign_handOut active waiting chosen
          have more : p.assignAll (task :: rest) =
              ({ p with queue := rest }.assign slot task).assignAll rest := by
            simp [assignAll, chosen]
          rw [more]
          -- The induction is on the tasks and not on the slots: a slot whose worker does not
          -- start stays idle, and the next task comes to it again.
          exact ReflTransGen.head first (ih (by simpa using active) (by simp))

/-! ## A turn of the dispatcher in changes -/

/-- The end of a turn: tasks are handed out one after another, and then the dispatcher may find that
it is done. -/
theorem settle_changes (active : p.phase = .active) : ReflTransGen Change p p.settle := by
  have assigned : ReflTransGen Change p (p.assignAll p.queue) :=
    (assignAll_handOuts p.queue active rfl).lift id fun _ _ => HandOut.change
  have still : (p.assignAll p.queue).phase = .active := by rw [assignAll_phase, active]
  simp only [settle]
  split
  · rename_i done
    simp only [Bool.and_eq_true, Bool.not_eq_true', List.isEmpty_iff] at done
    exact assigned.tail (Change.drain still done.1.1 done.1.2 done.2)
  · exact assigned

/-- A stale event changes nothing.  A slot that is not taken by its dispatch may be idle, work on
another task or drain for the sake of another; the dispatcher does not tell these apart. -/
theorem attend_of_stale {event : PoolEvent} (stale : p.Stale event) : p.attend event = p := by
  cases event with
  | completed slot dispatch report =>
      cases found : p.slots[slot]? with
      | none => simp [attend, state?, found]
      | some s =>
          have other := stale s found
          cases state : s.state with
          | idle => simp [attend, state?, found, state]
          | busy current task =>
              have apart : current ≠ dispatch := by simpa [state] using other
              simp [attend, state?, found, state, apart]
          | draining current =>
              have apart : current ≠ dispatch := by simpa [state] using other
              simp [attend, state?, found, state, apart]
  | timedOut slot dispatch =>
      cases found : p.slots[slot]? with
      | none => simp [attend, state?, found]
      | some s =>
          have other := stale s found
          cases state : s.state with
          | idle => simp [attend, state?, found, state]
          | busy current task =>
              have apart : current ≠ dispatch := by simpa [state] using other task
              simp [attend, state?, found, state, apart]
          | draining current => simp [attend, state?, found, state]

/-- Whatever an event says, attending to it is one change.  A stale one is ignored, and of the
others the state of the slot tells which it is. -/
theorem attend_change {event : PoolEvent} {rest : List PoolEvent} (active : p.phase = .active)
    (told : p.events = event :: rest) :
    Change p ({ p with events := rest }.attend event) := by
  by_cases stale : p.Stale event
  · -- Staleness does not look at the events that wait, so it is the same with one less.
    have same : { p with events := rest }.attend event = { p with events := rest } :=
      attend_of_stale (p := { p with events := rest }) (by cases event <;> exact stale)
    rw [same]
    exact Change.ignore event rest active told stale
  cases event with
  | completed slot dispatch report =>
      simp only [Stale, not_forall, not_not] at stale
      obtain ⟨s, found, taken⟩ := stale
      cases state : s.state with
      | idle => simp [state] at taken
      | busy current task =>
          obtain rfl : current = dispatch := by simpa [state] using taken
          have target := Change.report slot s current task report rest active told found state
          simpa [attend, state?, found, state, setState, stopTimer, tell,
            Slot.modify_eq_set found] using target
      | draining current =>
          obtain rfl : current = dispatch := by simpa [state] using taken
          have target := Change.release slot s current report rest active told found state
          simpa [attend, state?, found, state, setState, Slot.modify_eq_set found] using target
  | timedOut slot dispatch =>
      simp only [Stale, not_forall, not_not] at stale
      obtain ⟨s, found, task, state⟩ := stale
      have target := Change.overrun slot s dispatch task rest active told found state
      simpa [attend, state?, found, state, setState, raise, tell,
        Slot.modify_eq_set found] using target

/-! ## Moves and runs in changes -/

/-- When a move can happen, and what comes of it. -/
inductive Step (p : Pool) : PoolMove → Pool → Prop
  | submit (payload : String) (owned : p.owned = true) :
    Step p (.submit payload) (p.submit payload)
  | leave (owned : p.owned = true) : Step p .leave { p with owned := false }
  | receive (task : Task) (rest : List Task) (active : p.phase = .active)
      (waiting : p.channel = task :: rest) :
    Step p .receive { p with channel := rest, queue := p.queue ++ [task] }.settle
  | close (active : p.phase = .active) (waiting : p.channel = [])
      (listening : p.listening = true) (owned : p.owned = false) :
    Step p .receive { p with listening := false }.settle
  | attend (event : PoolEvent) (rest : List PoolEvent) (active : p.phase = .active)
      (told : p.events = event :: rest) :
    Step p .attend ({ p with events := rest }.attend event).settle
  | begin (slot : Nat) (s : Slot) (job : Job) (rest : List Job)
      (found : p.slots[slot]? = some s) (staffed : s.staffed = true)
      (free : s.running = none) (waiting : s.mailbox = job :: rest) :
    Step p (.begin slot)
      { p with slots := p.slots.set slot { s with mailbox := rest, running := some job } }
  | finish (slot : Nat) (s : Slot) (job : Job) (report : Report)
      (found : p.slots[slot]? = some s) (runs : s.running = some job) :
    Step p (.finish slot report)
      { p with
        slots := p.slots.set slot { s with running := none }
        events := p.events ++ [.completed slot job.dispatch report]
        reports := p.reports ++ [(job, report)] }
  | expire (timer : Timer) (armed : timer ∈ p.timers ∨ timer ∈ p.halted) :
    Step p (.expire timer)
      { p with
        timers := p.timers.filter (· ≠ timer)
        halted := p.halted.filter (· ≠ timer)
        events := p.events ++ [.timedOut timer.slot timer.dispatch] }
  | stop (active : p.phase = .active) : Step p .stop p.stop

/-- **When a move can happen and what comes of it**, with no guard left out.  What is said of moves
later goes by its cases. -/
theorem step?_step {move : PoolMove} (h : p.step? move = some q) : Step p move q := by
  cases move with
  | submit payload =>
      simp only [step?, Option.ite_none_right_eq_some, Option.some.injEq] at h
      obtain ⟨owned, rfl⟩ := h
      exact Step.submit payload owned
  | leave =>
      simp only [step?, Option.ite_none_right_eq_some, Option.some.injEq] at h
      obtain ⟨owned, rfl⟩ := h
      exact Step.leave owned
  | receive =>
      simp only [step?, Option.ite_none_right_eq_some] at h
      obtain ⟨active, h⟩ := h
      split at h
      · rename_i task rest waiting
        cases h
        exact Step.receive task rest active waiting
      · rename_i waiting
        simp only [Option.ite_none_right_eq_some, Bool.and_eq_true, Bool.not_eq_true',
          Option.some.injEq] at h
        obtain ⟨⟨listening, owned⟩, rfl⟩ := h
        exact Step.close active waiting listening owned
  | attend =>
      simp only [step?, Option.ite_none_right_eq_some] at h
      obtain ⟨active, h⟩ := h
      split at h
      · rename_i event rest told
        cases h
        exact Step.attend event rest active told
      · cases h
  | begin slot =>
      simp only [step?, Option.map_eq_some_iff, Option.bind_eq_some_iff] at h
      obtain ⟨t, ⟨s, found, begun⟩, rfl⟩ := h
      unfold Slot.begin? at begun
      split at begun
      · rename_i staffed free waiting
        cases begun
        exact Step.begin slot s _ _ found staffed free waiting
      · cases begun
  | finish slot report =>
      simp only [step?, Slot.finish?, Option.map_eq_some_iff, Option.bind_eq_some_iff] at h
      obtain ⟨⟨job, t⟩, ⟨s, found, job', runs, same⟩, rfl⟩ := h
      cases same
      exact Step.finish slot s job report found runs
  | expire timer =>
      simp only [step?, Option.ite_none_right_eq_some, Option.some.injEq] at h
      obtain ⟨armed, rfl⟩ := h
      exact Step.expire timer armed
  | stop =>
      simp only [step?, Option.ite_none_right_eq_some, Option.some.injEq] at h
      obtain ⟨active, rfl⟩ := h
      exact Step.stop active

/-- **A move is one change or several.**  It is one unless it is the dispatcher's, whose turn goes
on with handing out and may end with the dispatcher leaving. -/
theorem step?_changes {move : PoolMove} (h : p.step? move = some q) : TransGen Change p q := by
  cases step?_step h with
  | submit payload owned =>
      unfold submit
      by_cases active : p.phase = .active
      · simpa [active] using TransGen.single (Change.submit payload owned active)
      · simpa [active, tell] using TransGen.single (Change.reject payload owned active)
  | leave owned => exact TransGen.single (Change.leave owned)
  | receive task rest active waiting =>
      -- The turn goes on after this, with what `settle` does.
      exact TransGen.head' (Change.receive task rest active waiting) (settle_changes active)
  | close active waiting listening owned =>
      exact TransGen.head' (Change.close active waiting listening owned) (settle_changes active)
  | attend event rest active told =>
      exact TransGen.head' (attend_change active told)
        (settle_changes (by simpa using active))
  | begin slot s job rest found staffed free waiting =>
      exact TransGen.single (Change.begin slot s job rest found staffed free waiting)
  | finish slot s job report found runs =>
      exact TransGen.single (Change.finish slot s job report found runs)
  | expire timer armed => exact TransGen.single (Change.expire timer armed)
  | stop active => exact TransGen.single (Change.stop active)

theorem run?_changes {moves : List PoolMove} (h : p.run? moves = some q) :
    ReflTransGen Change p q := by
  induction moves generalizing p with
  | nil =>
      cases h
      exact ReflTransGen.refl
  | cons move rest ih =>
      simp only [run?, Option.bind_eq_some_iff] at h
      obtain ⟨r, first, more⟩ := h
      exact (step?_changes first).to_reflTransGen.trans (ih more)

/-- What every change keeps holds after any number of them. -/
theorem changes_induction {P : Pool → Prop} (h : ReflTransGen Change p q) (start : P p)
    (change : ∀ {r r' : Pool}, Change r r' → P r → P r') : P q := by
  induction h with
  | refl => exact start
  | tail _ last ih => exact change last ih

/-- **What every change keeps holds at all times of every run.**  A move may be several changes, and
it is enough to look at one of them. -/
theorem run?_induction {P : Pool → Prop} {moves : List PoolMove} (h : p.run? moves = some q)
    (start : P p) (change : ∀ {r r' : Pool}, Change r r' → P r → P r') : P q :=
  changes_induction (run?_changes h) start change

/-- What every move keeps, if not every change, holds between the moves of a run. -/
theorem run?_move_induction {P : Pool → Prop} {moves : List PoolMove} (h : p.run? moves = some q)
    (start : P p)
    (step : ∀ {r r' : Pool} {move : PoolMove}, r.step? move = some r' → P r → P r') : P q := by
  induction moves generalizing p with
  | nil =>
      cases h
      exact start
  | cons move rest ih =>
      simp only [run?, Option.bind_eq_some_iff] at h
      obtain ⟨r, first, more⟩ := h
      exact ih more (step first start)

/-! ## Logs -/

/-- **Nothing that was noted is ever taken back.**  What is said of a state in these terms need not
be proved again for later states. -/
structure Log (p q : Pool) : Prop where
  payloads : p.payloads <+: q.payloads
  assignments : p.assignments <+: q.assignments
  reports : p.reports <+: q.reports
  answers : p.answers <+: q.answers

theorem Log.refl (p : Pool) : Log p p :=
  ⟨List.prefix_rfl, List.prefix_rfl, List.prefix_rfl, List.prefix_rfl⟩

theorem Log.trans {r : Pool} (first : Log p q) (second : Log q r) : Log p r :=
  ⟨first.payloads.trans second.payloads, first.assignments.trans second.assignments,
    first.reports.trans second.reports, first.answers.trans second.answers⟩

/-- What stands in a list stands in a longer one. -/
theorem getElem?_of_isPrefix {α : Type} {short long : List α} (h : short <+: long) {i : Nat}
    {a : α} (found : short[i]? = some a) : long[i]? = some a := by
  obtain ⟨tail, rfl⟩ := h
  rw [List.getElem?_append_left (List.getElem?_eq_some_iff.mp found).1]
  exact found

/-- A dispatch keeps its number: what stands at a place of the log stands there for ever. -/
theorem Log.assignment (log : Log p q) {dispatch : Nat} {assignment : Assignment}
    (found : p.assignments[dispatch]? = some assignment) :
    q.assignments[dispatch]? = some assignment := getElem?_of_isPrefix log.assignments found

theorem Assigns.log {slot : Nat} (assigns : Assigns p slot q) : Log p q := by
  cases assigns <;> constructor <;>
    first | exact List.prefix_rfl | exact List.prefix_append _ _

/-- No change takes back what was noted. -/
theorem Change.log (change : Change p q) : Log p q := by
  cases change with
  | assign slot assigns => exact assigns.log
  | _ => constructor <;> first | exact List.prefix_rfl | exact List.prefix_append _ _

theorem changes_log (h : ReflTransGen Change p q) : Log p q :=
  changes_induction h (Log.refl p) fun change log => log.trans change.log

theorem run?_log {moves : List PoolMove} (h : p.run? moves = some q) : Log p q :=
  changes_log (run?_changes h)

/-! ## What becomes of one slot -/

/-- What a change from `p` to `q` can make of a slot. -/
inductive SlotChange (p q : Pool) (slot : Nat) (s : Slot) : Slot → Prop
  | same : SlotChange p q slot s s
  | hand (generation : UInt32) (task : Task) (idle : s.state = .idle)
      (noted : q.assignments = p.assignments ++ [⟨slot, task⟩]) :
    SlotChange p q slot s
      { generation
        staffed := true
        state := .busy p.assignments.length task
        mailbox := s.mailbox ++ [⟨p.assignments.length, task.payload⟩]
        running := s.running }
  | refuse (idle : s.state = .idle) :
    SlotChange p q slot s { s with generation := s.generation + 1, staffed := false }
  | free : SlotChange p q slot s { s with state := .idle }
  | overrun (dispatch : Nat) (task : Task) (busy : s.state = .busy dispatch task) :
    SlotChange p q slot s { s with state := .draining dispatch }
  | begin (job : Job) (rest : List Job) (free : s.running = none)
      (waiting : s.mailbox = job :: rest) :
    SlotChange p q slot s { s with mailbox := rest, running := some job }
  | finish (job : Job) (report : Report) (runs : s.running = some job)
      (noted : q.reports = p.reports ++ [(job, report)]) :
    SlotChange p q slot s { s with running := none }
  | abandon : SlotChange p q slot s s.abandon

/-- Of the slots an assignment changes at most the one that it is made to. -/
theorem Assigns.slot_change {place slot : Nat} (assigns : Assigns p place q) {t : Slot}
    (found : q.slots[slot]? = some t) :
    ∃ s, p.slots[slot]? = some s ∧ SlotChange p q slot s t := by
  cases assigns with
  | hand s generation calls task rest active waiting there idle =>
      rcases Slot.eq_or_of_getElem?_set found with ⟨rfl, rfl⟩ | ⟨-, same⟩
      · exact ⟨s, there, .hand generation task idle rfl⟩
      · exact ⟨t, same, .same⟩
  | refuse s task rest active waiting there idle unstaffed fails =>
      rcases Slot.eq_or_of_getElem?_set found with ⟨rfl, rfl⟩ | ⟨-, same⟩
      · exact ⟨s, there, .refuse idle⟩
      · exact ⟨t, same, .same⟩

/-- **Slots are neither made nor lost, and few things happen to them.**  What is said of single
slots is proved by these few cases, and not by those of all changes. -/
theorem Change.slot (change : Change p q) {slot : Nat} {t : Slot}
    (found : q.slots[slot]? = some t) :
    ∃ s, p.slots[slot]? = some s ∧ SlotChange p q slot s t := by
  cases change with
  | assign place assigns => exact assigns.slot_change found
  | report place s dispatch task report rest active told there busy =>
      rcases Slot.eq_or_of_getElem?_set found with ⟨rfl, rfl⟩ | ⟨-, same⟩
      · exact ⟨s, there, .free⟩
      · exact ⟨t, same, .same⟩
  | release place s dispatch report rest active told there draining =>
      rcases Slot.eq_or_of_getElem?_set found with ⟨rfl, rfl⟩ | ⟨-, same⟩
      · exact ⟨s, there, .free⟩
      · exact ⟨t, same, .same⟩
  | overrun place s dispatch task rest active told there busy =>
      rcases Slot.eq_or_of_getElem?_set found with ⟨rfl, rfl⟩ | ⟨-, same⟩
      · exact ⟨s, there, .overrun dispatch task busy⟩
      · exact ⟨t, same, .same⟩
  | begin place s job rest there staffed free waiting =>
      rcases Slot.eq_or_of_getElem?_set found with ⟨rfl, rfl⟩ | ⟨-, same⟩
      · exact ⟨s, there, .begin job rest free waiting⟩
      · exact ⟨t, same, .same⟩
  | finish place s job report there runs =>
      rcases Slot.eq_or_of_getElem?_set found with ⟨rfl, rfl⟩ | ⟨-, same⟩
      · exact ⟨s, there, .finish job report runs rfl⟩
      · exact ⟨t, same, .same⟩
  | stop active =>
      simp only [Pool.stop, List.getElem?_map, Option.map_eq_some_iff] at found
      obtain ⟨s, there, rfl⟩ := found
      exact ⟨s, there, .abandon⟩
  | _ => exact ⟨t, found, .same⟩

/-- There are as many slots after a change as before. -/
theorem Change.length_slots (change : Change p q) : q.slots.length = p.slots.length := by
  cases change with
  | assign slot assigns => cases assigns <;> simp
  | _ => simp [Pool.stop]

theorem run?_length_slots {moves : List PoolMove} (h : p.run? moves = some q) :
    q.slots.length = p.slots.length :=
  run?_induction (P := fun r => r.slots.length = p.slots.length) h rfl
    fun change same => change.length_slots.trans same

/-- How a pool starts. -/
theorem start_eq_ok {concurrency timeout : Nat} {starts : Nat → Bool}
    (h : start concurrency timeout starts = .ok p) :
    concurrency ≠ 0 ∧
      p =
        { timeout
          slots := (List.range concurrency).map fun slot => { staffed := starts slot }
          starts
          calls := concurrency } := by
  unfold start at h
  split at h
  · cases h
  · rename_i positive
    exact ⟨positive, (Except.ok.inj h).symm⟩

theorem start_length_slots {concurrency timeout : Nat} {starts : Nat → Bool}
    (h : start concurrency timeout starts = .ok p) : p.slots.length = concurrency := by
  obtain ⟨-, rfl⟩ := start_eq_ok h
  simp

/-- At the start all slots are idle and have nothing to do. -/
theorem start_slot {concurrency timeout : Nat} {starts : Nat → Bool}
    (h : start concurrency timeout starts = .ok p) {slot : Nat} {s : Slot}
    (found : p.slots[slot]? = some s) :
    s.state = .idle ∧ s.mailbox = [] ∧ s.running = none := by
  obtain ⟨-, rfl⟩ := start_eq_ok h
  simp only [List.getElem?_map, Option.map_eq_some_iff] at found
  obtain ⟨_, -, rfl⟩ := found
  exact ⟨rfl, rfl, rfl⟩

end Pool

end Decipher
