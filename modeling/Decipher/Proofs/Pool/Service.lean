import Decipher.Proofs.Pool.Correlation
import Mathlib.Data.List.Infix

/-!
# In which order a pool serves

Tasks are dispatched in the order in which they are received, each to the lowest slot that is
idle at that moment, and as long as there is such a slot none waits.  A slot whose task was timed
out is not idle until its worker has returned and the dispatcher has attended to the report.

* `observed`: what is seen along a run, move by move.
* `Turn`: the dispatcher takes one thing in and then hands out tasks until there are no more, or
  no idle slot; `HandOut` says how each of them is handed out.
* `step?_served`: what was received is what was dispatched and what waits in the queue, in this
  order.
* `Serial`: a worker begins its jobs one at a time, in the order in which they were dispatched.
* `run?_firstServed`: all of it together.  With a single slot the transforms begin in the order of
  submission, and each only after the one before has returned.

* `run?_conserves`: no task waits in the queue beside an idle slot.

What was received, and what workers did, cannot be read off a pool: tasks that were done are
forgotten by their workers.  So it is written down along the run (`observed`), and the invariants
tie what was written to what is there (`run?_observed`): `Received` for the dispatcher and `Serial`
for a worker.  If a worker does not come when it is sent for, its task counts as dispatched all the
same but is never begun; so the second assumes that workers come.

With several slots, jobs that were dispatched one after the other may begin in another order, as
that is up to the workers; with one slot the order is that of submission.
-/

namespace Decipher

open Relation

/-- The slot that an event is about. -/
def PoolEvent.slot : PoolEvent → Nat
  | completed slot _ _ => slot
  | timedOut slot _ => slot

namespace Pool

variable {p q : Pool} {move : PoolMove} {slot : Nat}

/-! ## What is seen along a run -/

/-- What is seen along a run, where `see` says what is seen of a single move. -/
def observed {α : Type} (see : Pool → PoolMove → List α) (p : Pool) : List PoolMove → List α
  | [] => []
  | move :: rest =>
    see p move ++
      match p.step? move with
      | some q => observed see q rest
      | none => []

/-- **Induction along a run, with what was seen of it so far.**  The property is one of the pool and
of what was seen, since neither of them tells the other. -/
theorem run?_observed {α : Type} {see : Pool → PoolMove → List α} {P : Pool → List α → Prop}
    {moves : List PoolMove} (h : p.run? moves = some q) (start : P p [])
    (step : ∀ {r r' : Pool} {move : PoolMove} {seen : List α}, r.step? move = some r' →
      P r seen → P r' (seen ++ see r move)) : P q (observed see p moves) := by
  -- The induction is on the moves that are left; what was seen before them is carried along.
  have later (seen : List α) (before : P p seen) : P q (seen ++ observed see p moves) := by
    clear start
    induction moves generalizing p seen with
    | nil =>
        cases h
        rwa [observed, List.append_nil]
    | cons move rest ih =>
        simp only [run?, Option.bind_eq_some_iff] at h
        obtain ⟨r, first, more⟩ := h
        rw [observed, first, ← List.append_assoc]
        exact ih more _ (step first before)
  exact later [] start

/-! ## Turns -/

/-- What the dispatcher takes in at the beginning of a turn.  It is one thing at a time, and
dispatching comes after it. -/
inductive Intake (p : Pool) : PoolMove → Pool → Prop
  | receive (task : Task) (rest : List Task) (waiting : p.channel = task :: rest) :
    Intake p .receive { p with channel := rest, queue := p.queue ++ [task] }
  | close (waiting : p.channel = []) (owned : p.owned = false) :
    Intake p .receive { p with listening := false }
  | attend (event : PoolEvent) (rest : List PoolEvent) (told : p.events = event :: rest) :
    Intake p .attend ({ p with events := rest }.attend event)

/-- A turn of the dispatcher.  It takes one thing in, and hands out tasks until there are no
more, or no idle slot; then it may find that it is done. -/
inductive Turn (p : Pool) (move : PoolMove) (q : Pool) : Prop
  | mk (taken given : Pool) (intake : Intake p move taken)
    (handed : ReflTransGen HandOut taken given)
    (exhausted : given.queue = [] ∨ ∀ s ∈ given.slots, s.state ≠ .idle)
    (ends : q = given ∨ q = { given with phase := .drained })

/-- What follows on the intake is handing out until nothing is left to hand out or nobody to hand it
to, and a look at whether everything is done. -/
theorem Turn.of_settle {taken : Pool} (intake : Intake p move taken)
    (active : taken.phase = .active) : Turn p move taken.settle := by
  refine ⟨taken, taken.assignAll taken.queue, intake, assignAll_handOuts _ active rfl,
    assignAll_prompt _ _, ?_⟩
  simp only [settle]
  split
  · exact Or.inr rfl
  · exact Or.inl rfl

/-- What the dispatcher takes in and hands out, and nothing else, happens in a turn. -/
theorem Turn.induction {P : Pool → Prop} (turn : Turn p move q)
    (intake : ∀ {taken : Pool}, Intake p move taken → P taken)
    (out : ∀ {r r' : Pool}, HandOut r r' → P r → P r')
    (drained : ∀ {r : Pool}, P r → P { r with phase := .drained }) : P q := by
  obtain ⟨taken, given, begins, handed, -, ends⟩ := turn
  have assigned : P given := by
    clear ends
    induction handed with
    | refl => exact intake begins
    | tail _ last ih => exact out last ih
  rcases ends with rfl | rfl
  · exact assigned
  · exact drained assigned

/-- The moves of the dispatcher are turns. -/
theorem step?_turn (h : p.step? move = some q) (mine : move = .receive ∨ move = .attend) :
    Turn p move q := by
  cases step?_step h with
  | receive task rest active waiting => exact Turn.of_settle (.receive task rest waiting) active
  | close active waiting listening owned => exact Turn.of_settle (.close waiting owned) active
  | attend event rest active told =>
      exact Turn.of_settle (.attend event rest told) (by rw [attend_phase, active])
  | _ => simp at mine

/-- What neither the state of a slot nor a timer, a flag or an answer touches, attending to an
event leaves alone. -/
theorem attend_same {α : Type} (f : Pool → α)
    (state : ∀ (p : Pool) (slot : Nat) (state : SlotState), f (p.setState slot state) = f p)
    (timer : ∀ (p : Pool) (timer : Timer), f (p.stopTimer timer) = f p)
    (flag : ∀ (p : Pool) (dispatch : Nat), f (p.raise dispatch) = f p)
    (told : ∀ (p : Pool) (ticket : Nat) (a : Answer), f (p.tell ticket a) = f p)
    (p : Pool) (event : PoolEvent) : f (p.attend event) = f p := by
  cases event <;> simp only [attend] <;> repeat' split
  all_goals simp only [told, timer, flag, state]

@[simp] theorem attend_assignments (p : Pool) (event : PoolEvent) :
    (p.attend event).assignments = p.assignments :=
  attend_same assignments (fun _ _ _ => rfl) (fun _ _ => rfl) (fun _ _ => rfl) (fun _ _ _ => rfl)
    p event

@[simp] theorem attend_starts (p : Pool) (event : PoolEvent) :
    (p.attend event).starts = p.starts :=
  attend_same starts (fun _ _ _ => rfl) (fun _ _ => rfl) (fun _ _ => rfl) (fun _ _ _ => rfl)
    p event

@[simp] theorem attend_queue (p : Pool) (event : PoolEvent) :
    (p.attend event).queue = p.queue :=
  attend_same queue (fun _ _ _ => rfl) (fun _ _ => rfl) (fun _ _ => rfl) (fun _ _ _ => rfl)
    p event

/-! ## First come, first served -/

/-- The task that the dispatcher receives in a move. -/
def receives (p : Pool) : PoolMove → List Task
  | .receive => p.channel.take 1
  | _ => []

/-- The tasks that were dispatched, and behind them those that wait for it.  Dispatching a task
changes nothing in this list, which is why the order is kept. -/
def served (p : Pool) : List Task := p.assignments.map Assignment.task ++ p.queue

/-- What is handed out goes from the head of the queue to the end of the assignments. -/
theorem HandOut.served (out : HandOut p q) : q.served = p.served := by
  obtain ⟨slot, assigns, -⟩ := out
  obtain ⟨s, t, task, -, -, waiting, -, noted⟩ := assigns.chosen
  simp [Pool.served, waiting, noted]

/-- What is received goes to the end of the queue. -/
theorem Intake.served (intake : Intake p move q) : q.served = p.served ++ receives p move := by
  cases intake with
  | receive task rest waiting => simp [Pool.served, receives, waiting]
  | close waiting owned => simp [Pool.served, receives, waiting]
  | attend event rest told => simp [Pool.served, receives]

/-- **What is received is served last.**  Only a dispatcher that is stopped forgets its queue.
Handing out takes a task from the head of the queue to the end of the assignments, which keeps the
order. -/
theorem step?_served (h : p.step? move = some q) (unstopped : q.phase ≠ .stopped) :
    q.served = p.served ++ receives p move := by
  have turn (mine : move = .receive ∨ move = .attend) :
      q.served = p.served ++ receives p move :=
    (step?_turn h mine).induction Intake.served (fun out same => out.served.trans same) id
  cases step?_step h with
  | receive => exact turn (Or.inl rfl)
  | close => exact turn (Or.inl rfl)
  | attend => exact turn (Or.inr rfl)
  | submit payload owned =>
      unfold submit
      dsimp only
      split <;> simp [Pool.served, receives, tell]
  | stop active => exact absurd rfl unstopped
  | _ => simp [Pool.served, receives]

/-- After a stop nothing is received and nothing dispatched. -/
theorem step?_of_stopped (h : p.step? move = some q) (stopped : p.phase = .stopped) :
    q.phase = .stopped ∧ q.assignments = p.assignments ∧ receives p move = [] := by
  cases step?_step h with
  | submit payload owned => simp [submit, stopped, tell, receives]
  | leave | begin | finish | expire => exact ⟨stopped, rfl, rfl⟩
  | _ => simp [stopped] at *

/-- How the tasks that were received so far stand in a pool. -/
structure Received (p : Pool) (seen : List Task) : Prop where
  /-- All of them were dispatched or wait, in this order. -/
  served : p.phase ≠ .stopped → p.served = seen
  dispatched : p.assignments.map Assignment.task <+: seen
  /-- They were submitted in the same order. -/
  submitted : seen <+: p.tasks

theorem start_received {concurrency timeout : Nat} {starts : Nat → Bool}
    (h : start concurrency timeout starts = .ok p) : p.Received [] := by
  obtain ⟨-, rfl⟩ := start_eq_ok h
  exact ⟨fun _ => rfl, List.prefix_rfl, List.nil_prefix⟩

theorem tasks_isPrefix (log : Log p q) : p.tasks <+: q.tasks := by
  obtain ⟨more, same⟩ := log.payloads
  rw [tasks, tasks, ← same, List.mapIdx_append]
  exact List.prefix_append _ _

/-- Only a stop makes a dispatcher stop. -/
theorem step?_stopped (h : p.step? move = some q) (stopped : q.phase = .stopped) :
    p.phase = .stopped ∨ (move = .stop ∧ q = p.stop) := by
  cases step?_step h with
  | submit payload owned =>
      refine Or.inl ?_
      unfold submit at stopped
      dsimp only at stopped
      split at stopped <;> exact stopped
  | receive task rest active waiting => exact absurd stopped (settle_phase active)
  | close active waiting listening owned => exact absurd stopped (settle_phase active)
  | attend event rest active told =>
      exact absurd stopped (settle_phase (by rw [attend_phase, active]))
  | stop active => exact Or.inr ⟨rfl, rfl⟩
  | _ => exact Or.inl stopped

/-- Along a run, what was received is written down in the order of its submission. -/
theorem step?_received {seen : List Task} (h : p.step? move = some q) (inLine : q.InLine)
    (received : p.Received seen) : q.Received (seen ++ receives p move) := by
  by_cases now : q.phase = .stopped
  · -- A stop forgets the queue, but nothing that was dispatched.
    have kept : q.assignments = p.assignments ∧ receives p move = [] := by
      rcases step?_stopped h now with stopped | ⟨rfl, rfl⟩
      · exact (step?_of_stopped h stopped).2
      · exact ⟨rfl, rfl⟩
    rw [kept.2, List.append_nil]
    refine ⟨fun unstopped => absurd now unstopped, kept.1 ▸ received.dispatched, ?_⟩
    exact received.submitted.trans (tasks_isPrefix (changes_log (step?_changes h).to_reflTransGen))
  · have before : p.phase ≠ .stopped := fun stopped => now (step?_of_stopped h stopped).1
    have served : q.served = seen ++ receives p move := by
      rw [step?_served h now, received.served before]
    refine ⟨fun _ => served, ?_, ?_⟩
    · rw [← served]
      exact List.prefix_append _ _
    · rw [← served]
      exact (List.prefix_append _ q.channel).trans inLine.order

/-- After any run, the tasks that were received are the first ones that were submitted. -/
theorem run?_received {concurrency timeout : Nat} {starts : Nat → Bool} {moves : List PoolMove}
    (hstart : start concurrency timeout starts = .ok p) (h : p.run? moves = some q) :
    q.Received (observed receives p moves) := by
  have both : q.Sound ∧ q.Received (observed receives p moves) := by
    refine run?_observed (P := fun r seen => r.Sound ∧ r.Received seen) h
      ⟨start_sound hstart, start_received hstart⟩ fun first before => ?_
    have sound := step?_sound first before.1
    exact ⟨sound, step?_received first sound.inLine before.2⟩
  exact both.2

/-! ## Slots that drain -/

/-- That nothing was assigned to a slot on the way from `p` to `q`.  It is read off the record of
dispatches, in which every assignment is noted. -/
def Spares (slot : Nat) (p q : Pool) : Prop :=
  ∃ new, q.assignments = p.assignments ++ new ∧ ∀ a ∈ new, a.slot ≠ slot

theorem Spares.of_eq (same : q.assignments = p.assignments) : Spares slot p q :=
  ⟨[], by rw [same, List.append_nil], List.forall_mem_nil _⟩

theorem Spares.trans {r : Pool} (first : Spares slot p q) (second : Spares slot q r) :
    Spares slot p r := by
  obtain ⟨new, noted, others⟩ := first
  obtain ⟨more, noted', others'⟩ := second
  refine ⟨new ++ more, by rw [noted', noted, List.append_assoc], ?_⟩
  exact List.forall_mem_append.mpr ⟨others, others'⟩

/-- A slot that is not idle is left alone when work is handed out, for a task goes to an idle slot.
-/
theorem HandOut.spares (out : HandOut p q) {state : SlotState} (there : p.state? slot = some state)
    (taken : state ≠ .idle) : q.state? slot = some state ∧ Spares slot p q := by
  obtain ⟨place, assigns, -⟩ := out
  obtain ⟨s, t, task, found, idle, -, slots, noted⟩ := assigns.chosen
  -- The slot that is chosen is idle, and this one is not.
  have apart : place ≠ slot := by
    rintro rfl
    rw [state?, found, Option.map_some, idle, Option.some.injEq] at there
    exact taken there.symm
  refine ⟨?_, [⟨place, task⟩], noted, List.forall_mem_singleton.mpr apart⟩
  rw [state?, slots, List.getElem?_set_ne apart]
  exact there

/-- A slot that is taken is left alone for the rest of the turn. -/
theorem settle_spares {state : SlotState} (active : p.phase = .active)
    (there : p.state? slot = some state) (taken : state ≠ .idle) :
    p.settle.state? slot = some state ∧ Spares slot p p.settle := by
  have handed {q : Pool} (outs : ReflTransGen HandOut p q) :
      q.state? slot = some state ∧ Spares slot p q := by
    induction outs with
    | refl => exact ⟨there, Spares.of_eq rfl⟩
    | tail _ last ih =>
        obtain ⟨still, spares⟩ := last.spares ih.1 taken
        exact ⟨still, ih.2.trans spares⟩
  have assigned := handed (assignAll_handOuts p.queue active rfl)
  simp only [settle]
  split <;> exact assigned

theorem state?_setState {state : SlotState} (there : p.state? slot = some state)
    (next : SlotState) : (p.setState slot next).state? slot = some next := by
  obtain ⟨s, found, -⟩ := Option.map_eq_some_iff.mp there
  simp [state?, setState, found]

theorem state?_setState_of_ne {other : Nat} (apart : other ≠ slot) (state : SlotState) :
    (p.setState other state).state? slot = p.state? slot := by
  simp [state?, setState, List.getElem?_modify, if_neg apart]

/-- A dispatcher that is there can attend to an event at any time. -/
theorem step?_attend {event : PoolEvent} {rest : List PoolEvent} (active : p.phase = .active)
    (told : p.events = event :: rest) :
    p.step? .attend = some ({ p with events := rest }.attend event).settle := by
  simp [step?, active, told]

/-- **A slot whose task is timed out drains**, and nothing is assigned to it in the same turn. -/
theorem step?_overrun {dispatch : Nat} {task : Task} {rest : List PoolEvent}
    (active : p.phase = .active) (told : p.events = .timedOut slot dispatch :: rest)
    (busy : p.state? slot = some (.busy dispatch task)) :
    ∃ q, p.step? .attend = some q ∧ q.state? slot = some (.draining dispatch) ∧
      Spares slot p q := by
  let late := { p with events := rest }.attend (.timedOut slot dispatch)
  have phase : late.phase = .active := by rw [attend_phase, active]
  have drains : late.state? slot = some (.draining dispatch) := by
    have busy' : { p with events := rest }.state? slot = some (.busy dispatch task) := busy
    simp only [late, attend, busy', if_true]
    exact state?_setState busy' _
  obtain ⟨still, spares⟩ := settle_spares phase drains (SlotState.draining_ne_idle dispatch)
  have noted : late.assignments = p.assignments := attend_assignments { p with events := rest } _
  exact ⟨late.settle, step?_attend active told, still, (Spares.of_eq noted).trans spares⟩

/-- An event about another slot leaves a slot alone. -/
theorem attend_state?_of_ne {event : PoolEvent} (apart : event.slot ≠ slot) :
    (p.attend event).state? slot = p.state? slot := by
  cases event <;> simp only [attend] <;> repeat' split
  all_goals first
    | rfl
    | exact state?_setState_of_ne apart _

/-- Only the report of its worker ends the draining of a slot.  Other events are about another slot,
or another dispatch, or come from a timer, and none of them counts for a slot that drains. -/
theorem attend_draining (event : PoolEvent) {dispatch : Nat}
    (draining : p.state? slot = some (.draining dispatch)) :
    (p.attend event).state? slot = some (.draining dispatch) ∨
      ∃ report, event = .completed slot dispatch report := by
  by_cases here : event.slot = slot
  · subst here
    cases event with
    | completed place other report =>
        simp only [PoolEvent.slot] at draining ⊢
        by_cases same : dispatch = other
        · subst same
          exact Or.inr ⟨report, rfl⟩
        · exact Or.inl (by simp [attend, draining, same])
    | timedOut place other =>
        simp only [PoolEvent.slot] at draining ⊢
        exact Or.inl (by simp [attend, draining])
  · exact Or.inl ((attend_state?_of_ne here).trans draining)

/-- What a worker does is not seen in what the dispatcher knows of its slot. -/
theorem state?_of_set {place : Nat} {s t : Slot} (found : p.slots[place]? = some s)
    (slots : q.slots = p.slots.set place t) (same : t.state = s.state) :
    q.state? slot = p.state? slot := by
  rw [state?, state?, slots, ← List.getElem?_map, ← List.getElem?_map,
    Slot.map_state_set found same]

/-- **A slot that drains gets no other task** until the dispatcher attends to the report of its
worker. -/
theorem step?_draining {dispatch : Nat} (h : p.step? move = some q)
    (draining : p.state? slot = some (.draining dispatch)) :
    (q.state? slot = some (.draining dispatch) ∧ Spares slot p q) ∨
      (move = .attend ∧ ∃ report rest, p.events = .completed slot dispatch report :: rest) := by
  cases step?_step h with
  | receive task rest active waiting =>
      exact Or.inl (settle_spares (p := { p with channel := rest, queue := p.queue ++ [task] })
        active draining (SlotState.draining_ne_idle dispatch))
  | close active waiting listening owned =>
      exact Or.inl (settle_spares (p := { p with listening := false }) active draining
        (SlotState.draining_ne_idle dispatch))
  | attend event rest active told =>
      rcases attend_draining (p := { p with events := rest }) event draining with
        same | ⟨report, rfl⟩
      · -- The slot still drains when the event was attended to, and so it is passed by in what
        -- follows.
        have phase : ({ p with events := rest }.attend event).phase = .active := by
          rw [attend_phase, active]
        have noted : ({ p with events := rest }.attend event).assignments = p.assignments :=
          attend_assignments { p with events := rest } event
        obtain ⟨still, spares⟩ := settle_spares phase same (SlotState.draining_ne_idle dispatch)
        exact Or.inl ⟨still, (Spares.of_eq noted).trans spares⟩
      · exact Or.inr ⟨rfl, report, rest, told⟩
  | submit payload owned =>
      unfold submit
      dsimp only
      split <;> exact Or.inl ⟨draining, Spares.of_eq rfl⟩
  | leave owned => exact Or.inl ⟨draining, Spares.of_eq rfl⟩
  | expire timer armed => exact Or.inl ⟨draining, Spares.of_eq rfl⟩
  | begin place s job rest found staffed free waiting =>
      refine Or.inl ⟨Eq.trans ?_ draining, Spares.of_eq rfl⟩
      exact state?_of_set (t := { s with mailbox := rest, running := some job }) found rfl rfl
  | finish place s job report found runs =>
      refine Or.inl ⟨Eq.trans ?_ draining, Spares.of_eq rfl⟩
      exact state?_of_set (t := { s with running := none }) found rfl rfl
  | stop active =>
      obtain ⟨s, found, state⟩ := Option.map_eq_some_iff.mp draining
      refine Or.inl ⟨?_, Spares.of_eq rfl⟩
      simp [state?, stop, found, Slot.abandon, state]

/-! ## Workers -/

/-- What a worker does with a job. -/
inductive WorkerAct
  | begins (job : Job)
  | ends (job : Job)
  deriving DecidableEq

/-- What the worker of a slot does in a move. -/
def workerActs (slot : Nat) (p : Pool) : PoolMove → List WorkerAct
  | .begin place =>
    if place = slot then ((p.slots[slot]?).bind fun s => s.mailbox.head?).toList.map .begins else []
  | .finish place _ =>
    if place = slot then ((p.slots[slot]?).bind Slot.running).toList.map .ends else []
  | _ => []

/-- The acts of a worker that has done some jobs, one after another, and perhaps begun one
more. -/
def serially (done : List Job) (running : Option Job) : List WorkerAct :=
  (done.flatMap fun job => [.begins job, .ends job]) ++ running.toList.map .begins

/-- The jobs that a slot was handed, in the order of their dispatches.  The number of a dispatch is
its index among all dispatches, those to other slots included. -/
def handed (slot : Nat) (p : Pool) : List Job :=
  p.assignments.zipIdx.filterMap fun (a, dispatch) =>
    if a.slot = slot then some ⟨dispatch, a.task.payload⟩ else none

/-- What a worker runs, and what waits in its mailbox.  Nobody but the worker takes anything from
it. -/
def desk? (p : Pool) (slot : Nat) : Option (Option Job × List Job) :=
  (p.slots[slot]?).map fun s => (s.running, s.mailbox)

/-- **How a worker works**: it has begun its jobs one at a time, in the order in which they were
dispatched, and each when the one before was done.  The rest waits in the mailbox. -/
def Serial (slot : Nat) (p : Pool) (seen : List WorkerAct) : Prop :=
  ∃ done running mailbox, p.desk? slot = some (running, mailbox) ∧
    seen = serially done running ∧ done ++ running.toList ++ mailbox = p.handed slot

/-- An assignment adds a job for its own slot, and none for another. -/
theorem handed_concat {slot place : Nat} {task : Task}
    (noted : q.assignments = p.assignments ++ [⟨place, task⟩]) :
    q.handed slot = p.handed slot ++
      if place = slot then [⟨p.assignments.length, task.payload⟩] else [] := by
  rw [handed, noted, List.zipIdx_append, List.filterMap_append]
  by_cases here : place = slot <;> simp [handed, here]

/-- A worker does not notice what the dispatcher notes of its slot. -/
theorem desk?_setState (p : Pool) (place : Nat) (state : SlotState) :
    (p.setState place state).desk? slot = p.desk? slot := by
  simp only [desk?, setState, List.getElem?_modify]
  cases p.slots[slot]? with
  | none => rfl
  | some s =>
      simp only [Option.map_eq_map, Option.map_some]
      split <;> rfl

/-- A worker does not notice which events are attended to. -/
theorem attend_desk? (p : Pool) (event : PoolEvent) : (p.attend event).desk? slot = p.desk? slot :=
  attend_same (fun p => p.desk? slot) desk?_setState (fun _ _ => rfl) (fun _ _ => rfl)
    (fun _ _ _ => rfl) p event

theorem stop_desk? : p.stop.desk? slot = p.desk? slot := by
  simp only [desk?, stop, List.getElem?_map]
  cases p.slots[slot]? with
  | none => rfl
  | some s =>
      simp only [Option.map_some, Slot.abandon]
      split <;> rfl

/-- A job that is handed out goes to the end of the mailbox, which is the end of what the slot was
handed. -/
theorem HandOut.serial {seen : List WorkerAct} (out : HandOut p q)
    (starts : ∀ call, p.starts call = true) (serial : Serial slot p seen) : Serial slot q seen := by
  obtain ⟨done, running, mailbox, desk, same, jobs⟩ := serial
  obtain ⟨place, assigns, -⟩ := out
  cases assigns with
  | refuse s task rest active waiting found idle unstaffed fails =>
      -- The slot would be noted for a task that never reaches its mailbox.
      rw [starts] at fails
      cases fails
  | hand s generation calls task rest active waiting found idle =>
      by_cases here : place = slot
      · subst here
        rw [desk?, found, Option.map_some, Option.some.injEq, Prod.mk.injEq] at desk
        obtain ⟨rfl, rfl⟩ := desk
        refine ⟨done, s.running, s.mailbox ++ [⟨p.assignments.length, task.payload⟩], ?_, same, ?_⟩
        · rw [desk?, List.getElem?_set_self (List.getElem?_eq_some_iff.mp found).1]
          rfl
        rw [handed_concat rfl, if_pos rfl, ← jobs, List.append_assoc, List.append_assoc]
        simp
      · refine ⟨done, running, mailbox, ?_, same, ?_⟩
        · rw [desk?, List.getElem?_set_ne here]
          exact desk
        rw [handed_concat rfl, if_neg here, List.append_nil, jobs]

/-- A worker that has the same on its desk, and was handed the same, is where it was. -/
theorem Serial.of_eq {seen : List WorkerAct} (serial : Serial slot p seen)
    (desk : q.desk? slot = p.desk? slot) (assignments : q.assignments = p.assignments) :
    Serial slot q seen := by
  obtain ⟨done, running, mailbox, there, same, jobs⟩ := serial
  exact ⟨done, running, mailbox, desk.trans there, same, by rw [jobs, handed, handed, assignments]⟩

theorem Intake.serial {seen : List WorkerAct} (intake : Intake p move q)
    (serial : Serial slot p seen) :
    Serial slot q seen := by
  cases intake with
  | receive task rest waiting => exact serial.of_eq rfl rfl
  | close waiting owned => exact serial.of_eq rfl rfl
  | attend event rest told =>
      exact serial.of_eq ((attend_desk? _ event).trans rfl) (attend_assignments _ _)

/-- A turn of the dispatcher puts jobs into mailboxes and does nothing else to a worker. -/
theorem Turn.serial {seen : List WorkerAct} (turn : Turn p move q)
    (starts : ∀ call, p.starts call = true) (serial : Serial slot p seen) :
    Serial slot q seen := by
  have both : (∀ call, q.starts call = true) ∧ Serial slot q seen := by
    refine turn.induction (P := fun r => (∀ call, r.starts call = true) ∧ Serial slot r seen)
      (fun intake => ⟨?_, intake.serial serial⟩) (fun out before => ?_) id
    · cases intake <;> simpa using starts
    · exact ⟨fun call => by rw [out.change.settings.2, before.1], out.serial before.1 before.2⟩
  exact both.2

/-- The worker of a slot begins the first job of its mailbox, if it runs none. -/
theorem Serial.begins {seen : List WorkerAct} {s : Slot} {job : Job} {rest : List Job}
    (serial : Serial slot p seen) (found : p.slots[slot]? = some s) (free : s.running = none)
    (waiting : s.mailbox = job :: rest) :
    Serial slot
      { p with slots := p.slots.set slot { s with mailbox := rest, running := some job } }
      (seen ++ [.begins job]) := by
  obtain ⟨done, running, mailbox, desk, rfl, jobs⟩ := serial
  rw [desk?, found, Option.map_some, Option.some.injEq, Prod.mk.injEq, free, waiting] at desk
  obtain ⟨rfl, rfl⟩ := desk
  refine ⟨done, some job, rest, ?_, by simp [serially], by simpa [handed] using jobs⟩
  rw [desk?, List.getElem?_set_self (List.getElem?_eq_some_iff.mp found).1]
  rfl

/-- When a worker ends the job that it runs, the job joins those that are done. -/
theorem Serial.ends {seen : List WorkerAct} {s : Slot} {job : Job}
    (serial : Serial slot p seen) (found : p.slots[slot]? = some s)
    (runs : s.running = some job) (events : List PoolEvent) (reports : List (Job × Report)) :
    Serial slot { p with slots := p.slots.set slot { s with running := none }, events, reports }
      (seen ++ [.ends job]) := by
  obtain ⟨done, running, mailbox, desk, rfl, jobs⟩ := serial
  rw [desk?, found, Option.map_some, Option.some.injEq, Prod.mk.injEq, runs] at desk
  obtain ⟨rfl, rfl⟩ := desk
  refine ⟨done ++ [job], none, s.mailbox, ?_, by simp [serially], by simpa [handed] using jobs⟩
  rw [desk?, List.getElem?_set_self (List.getElem?_eq_some_iff.mp found).1]
  rfl

/-- **A worker takes its jobs one after another.**  What it begins is the first job of its mailbox,
and what it ends is the job that it runs; the dispatcher adds jobs at the other end. -/
theorem step?_serial {seen : List WorkerAct} (h : p.step? move = some q)
    (starts : ∀ call, p.starts call = true) (serial : Serial slot p seen) :
    Serial slot q (seen ++ workerActs slot p move) := by
  have turn (mine : move = .receive ∨ move = .attend) (none : workerActs slot p move = []) :
      Serial slot q (seen ++ workerActs slot p move) := by
    rw [none, List.append_nil]
    exact (step?_turn h mine).serial starts serial
  have other (none : workerActs slot p move = []) (desk : q.desk? slot = p.desk? slot)
      (assignments : q.assignments = p.assignments) :
      Serial slot q (seen ++ workerActs slot p move) := by
    rw [none, List.append_nil]
    exact serial.of_eq desk assignments
  cases step?_step h with
  | receive => exact turn (Or.inl rfl) rfl
  | close => exact turn (Or.inl rfl) rfl
  | attend => exact turn (Or.inr rfl) rfl
  | submit payload owned =>
      refine other rfl ?_ ?_ <;> unfold submit <;> dsimp only <;> split <;> rfl
  | stop active => exact other rfl stop_desk? rfl
  | begin place s job rest found staffed free waiting =>
      by_cases here : place = slot
      · subst here
        have acts : workerActs place p (.begin place) = [.begins job] := by
          simp [workerActs, found, waiting]
        rw [acts]
        exact serial.begins found free waiting
      · refine other (if_neg here) ?_ rfl
        rw [desk?, desk?, List.getElem?_set_ne here]
  | finish place s job report found runs =>
      by_cases here : place = slot
      · subst here
        have acts : workerActs place p (.finish place report) = [.ends job] := by
          simp [workerActs, found, runs]
        rw [acts]
        exact serial.ends found runs _ _
      · refine other (if_neg here) ?_ rfl
        rw [desk?, desk?, List.getElem?_set_ne here]
  | _ => exact other rfl rfl rfl

theorem start_serial {concurrency timeout : Nat} {starts : Nat → Bool}
    (h : start concurrency timeout starts = .ok p) (inside : slot < concurrency) :
    Serial slot p [] := by
  obtain ⟨-, rfl⟩ := start_eq_ok h
  refine ⟨[], none, [], ?_, rfl, rfl⟩
  simp [desk?, List.getElem?_range inside]

theorem step?_starts (h : p.step? move = some q) : q.starts = p.starts :=
  changes_induction (P := fun r => r.starts = p.starts) (step?_changes h).to_reflTransGen rfl
    fun change same => change.settings.2.trans same

theorem run?_serial {concurrency timeout : Nat} {starts : Nat → Bool} {moves : List PoolMove}
    (hstart : start concurrency timeout starts = .ok p) (h : p.run? moves = some q)
    (staffed : ∀ call, starts call = true) (inside : slot < concurrency) :
    Serial slot q (observed (workerActs slot) p moves) := by
  have first : ∀ call, p.starts call = true := by
    obtain ⟨-, rfl⟩ := start_eq_ok hstart
    exact staffed
  have both : (∀ call, q.starts call = true) ∧
      Serial slot q (observed (workerActs slot) p moves) := by
    refine run?_observed (P := fun r seen => (∀ call, r.starts call = true) ∧ Serial slot r seen)
      h ⟨first, start_serial hstart inside⟩ fun step before => ⟨?_, ?_⟩
    · rw [step?_starts step]
      exact before.1
    · exact step?_serial step before.1 before.2
  exact both.2

/-! ## A single slot -/

/-- Tasks are assigned to slots that there are.  Slots are neither added nor removed. -/
def Placed (p : Pool) : Prop := ∀ a ∈ p.assignments, a.slot < p.slots.length

/-- Tasks are assigned to slots that there are. -/
theorem Change.placed (change : Change p q) (placed : p.Placed) : q.Placed := by
  unfold Placed
  rw [change.length_slots]
  cases change with
  | assign slot assigns =>
      obtain ⟨s, t, task, found, -, -, -, noted⟩ := assigns.chosen
      rw [noted]
      refine List.forall_mem_append.mpr ⟨placed, List.forall_mem_singleton.mpr ?_⟩
      exact (List.getElem?_eq_some_iff.mp found).1
  | _ => exact placed

theorem run?_placed {concurrency timeout : Nat} {starts : Nat → Bool} {moves : List PoolMove}
    (hstart : start concurrency timeout starts = .ok p) (h : p.run? moves = some q) :
    q.Placed := by
  refine run?_induction h ?_ Change.placed
  obtain ⟨-, rfl⟩ := start_eq_ok hstart
  exact List.forall_mem_nil _

/-- The jobs of all submissions. -/
def orders (p : Pool) : List Job := p.payloads.mapIdx Job.mk

/-- **A single slot is handed everything, in the order of submission.**  There is no other slot that
anything could have been assigned to. -/
theorem Placed.handed_isPrefix (placed : p.Placed) (inLine : p.InLine)
    (single : p.slots.length = 1) :
    p.handed 0 <+: p.orders := by
  have all : p.handed 0 = p.assignments.mapIdx fun dispatch a => ⟨dispatch, a.task.payload⟩ := by
    -- There is no other slot, so that no assignment is passed over.
    rw [handed, List.mapIdx_eq_zipIdx_map, ← List.filterMap_eq_map]
    refine List.filterMap_congr fun entry member => ?_
    have first : entry.1.slot = 0 := by
      have inside := placed entry.1 (List.fst_mem_of_mem_zipIdx member)
      omega
    exact if_pos first
  rw [all, List.prefix_iff_getElem?]
  intro dispatch bound
  rw [List.length_mapIdx] at bound
  have noted : p.assignments[dispatch]? = some ⟨p.assignments[dispatch].slot,
      p.assignments[dispatch].task⟩ := List.getElem?_eq_getElem bound
  simp [orders, (inLine.assignment noted).2]

/-! ## No task waits beside an idle slot -/

theorem Change.stopped_queue (change : Change p q) (empty : p.phase = .stopped → p.queue = [])
    (stopped : q.phase = .stopped) : q.queue = [] := by
  cases change with
  | stop active => rfl
  | drain active listening waiting idle => cases stopped
  | assign slot assigns =>
      have active := assigns.active
      cases assigns <;> exact absurd (stopped.symm.trans active) nofun
  | _ => first
    | exact empty stopped
    | exact absurd (stopped.symm.trans ‹p.phase = .active›) nofun

/-- **Work is conserved.**  Between the turns of the dispatcher no task waits in the queue while
there is an idle slot. -/
theorem run?_conserves {concurrency timeout : Nat} {starts : Nat → Bool} {moves : List PoolMove}
    (hstart : start concurrency timeout starts = .ok p) (h : p.run? moves = some q) :
    q.queue = [] ∨ ∀ s ∈ q.slots, s.state ≠ .idle := by
  cases phase : q.phase with
  | active => exact run?_prompt hstart h phase
  | drained => exact Or.inl ((run?_sound hstart h).woundUp.done phase).2.1
  | stopped =>
      refine Or.inl ?_
      refine run?_induction (P := fun r => r.phase = .stopped → r.queue = []) h ?_
        Change.stopped_queue phase
      obtain ⟨-, rfl⟩ := start_eq_ok hstart
      exact nofun

/-! ## First come, first served -/

/-- Whoever makes it, a move that is not the dispatcher's assigns nothing. -/
theorem step?_assignments (h : p.step? move = some q) (other : move ≠ .receive)
    (other' : move ≠ .attend) : q.assignments = p.assignments := by
  cases step?_step h with
  | receive | close => exact absurd rfl other
  | attend => exact absurd rfl other'
  | submit payload owned =>
      unfold submit
      dsimp only
      split <;> rfl
  | _ => rfl

/-- **How a pool `p` that made some moves and became `q` serves its tasks.**  It is read off the
moves and off what the pool notes of itself. -/
structure FirstServed (p : Pool) (moves : List PoolMove) (q : Pool) : Prop where
  /-- Tasks are received in the order of submission. -/
  received : observed receives p moves <+: q.tasks
  /-- They are dispatched in the order in which they are received.  The number of a dispatch is
  its index, and so that of its task among the tasks that were received. -/
  dispatched : q.assignments.map Assignment.task <+: observed receives p moves
  /-- The others wait in the queue, in the same order, unless the dispatcher was stopped. -/
  waiting : q.phase ≠ .stopped →
    q.assignments.map Assignment.task ++ q.queue = observed receives p moves
  /-- The numbers by which slots and workers know their tasks are those of the dispatches. -/
  numbered : q.Assigned
  /-- In a turn of the dispatcher one task after another goes to the lowest idle slot, until
  there are no more, or no idle slot.  Otherwise nothing is assigned. -/
  turn : ∀ move r, q.step? move = some r →
    ((move = .receive ∨ move = .attend) ∧ Turn q move r) ∨
      (move ≠ .receive ∧ move ≠ .attend ∧ r.assignments = q.assignments)
  /-- A slot whose task is timed out drains. -/
  overrun : ∀ slot dispatch task rest, q.phase = .active →
    q.events = .timedOut slot dispatch :: rest →
    q.state? slot = some (.busy dispatch task) →
    ∃ r, q.step? .attend = some r ∧ r.state? slot = some (.draining dispatch) ∧ Spares slot q r
  /-- It gets no other task until the late report of its worker is attended to. -/
  draining : ∀ move r slot dispatch, q.step? move = some r →
    q.state? slot = some (.draining dispatch) →
    (r.state? slot = some (.draining dispatch) ∧ Spares slot q r) ∨
      (move = .attend ∧ ∃ report rest, q.events = .completed slot dispatch report :: rest)
  /-- No task waits in the queue while there is an idle slot. -/
  conserves : q.queue = [] ∨ ∀ s ∈ q.slots, s.state ≠ .idle
  /-- If workers start when they are sent for, each of them begins its jobs one at a time, in
  the order in which they were dispatched. -/
  serial : (∀ call, q.starts call = true) → ∀ slot < q.slots.length,
    Serial slot q (observed (workerActs slot) p moves)
  /-- In particular a single worker begins its jobs in the order of submission, and each only
  after the one before has ended. -/
  single : (∀ call, q.starts call = true) → q.slots.length = 1 → ∃ done running,
    observed (workerActs 0) p moves = serially done running ∧ done ++ running.toList <+: q.orders

/-- **First come, first served**, whatever the number of slots and whatever the order in which
things happen. -/
theorem run?_firstServed {concurrency timeout : Nat} {starts : Nat → Bool}
    {moves : List PoolMove} (hstart : start concurrency timeout starts = .ok p)
    (h : p.run? moves = some q) : FirstServed p moves q := by
  have sound := run?_sound hstart h
  have received := run?_received hstart h
  have length : q.slots.length = concurrency :=
    (run?_length_slots h).trans (start_length_slots hstart)
  have settings : q.starts = starts := by
    refine run?_induction (P := fun r => r.starts = starts) h ?_
      fun change same => change.settings.2.trans same
    obtain ⟨-, rfl⟩ := start_eq_ok hstart
    rfl
  have serial (staffed : ∀ call, q.starts call = true) (slot : Nat)
      (inside : slot < q.slots.length) : Serial slot q (observed (workerActs slot) p moves) :=
    run?_serial hstart h (settings ▸ staffed) (length ▸ inside)
  refine
    { received := received.submitted
      dispatched := received.dispatched
      waiting := received.served
      numbered := sound.assigned
      turn := fun move r first => ?_
      overrun := fun slot dispatch task rest active told busy => step?_overrun active told busy
      draining := fun move r slot dispatch first draining => step?_draining first draining
      conserves := run?_conserves hstart h
      serial := serial
      single := fun staffed single => ?_ }
  · by_cases mine : move = .receive ∨ move = .attend
    · exact Or.inl ⟨mine, step?_turn first mine⟩
    · obtain ⟨other, other'⟩ := not_or.mp mine
      exact Or.inr ⟨other, other', step?_assignments first other other'⟩
  · -- What the worker has done and does is the beginning of what its slot was handed, and that
    -- is the beginning of what was submitted.
    obtain ⟨done, running, mailbox, -, same, jobs⟩ := serial staffed 0 (by omega)
    refine ⟨done, running, same, ?_⟩
    exact ((List.prefix_append _ mailbox).trans (jobs ▸ List.prefix_rfl)).trans
      ((run?_placed hstart h).handed_isPrefix sound.inLine single)

/-- The second task waits for the slot although the owner of the first was told long ago. -/
theorem overtaken_firstServed :
    ∃ p q, start 1 30 = .ok p ∧ p.run? overtaken = some q ∧ FirstServed p overtaken q ∧
      q.assignments = [⟨0, ⟨0, "slow"⟩⟩, ⟨0, ⟨1, "quick"⟩⟩] ∧
      observed (workerActs 0) p overtaken =
        [.begins ⟨0, "slow"⟩, .ends ⟨0, "slow"⟩, .begins ⟨1, "quick"⟩, .ends ⟨1, "quick"⟩] := by
  have starts : start 1 30 = .ok solo := rfl
  have ends : (solo.run? overtaken).map Pool.assignments =
      some [⟨0, ⟨0, "slow"⟩⟩, ⟨0, ⟨1, "quick"⟩⟩] := rfl
  obtain ⟨q, run, noted⟩ := Option.map_eq_some_iff.mp ends
  exact ⟨solo, q, starts, run, run?_firstServed starts run, noted, rfl⟩

end Pool

end Decipher
