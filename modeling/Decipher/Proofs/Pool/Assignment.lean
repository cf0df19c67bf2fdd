import Decipher.Proofs.Pool.Outstanding

/-!
# What was assigned to whom

Slots, workers and events name a task by the number of its dispatch.  This module settles
that the number always leads back to the right task.

* `InLine`: tasks pass through the channel and the queue in the order of their submission,
  so that what was assigned, what waits in the queue and what waits in the channel make up
  the list of all submissions.  In particular an assignment has the payload that was
  submitted under its ticket, and no ticket is assigned twice.
* `Assigned`: the dispatch of a busy slot, of a job and of a report is the number of an
  assignment of that slot, and of the task that the slot, the job and the report are about.
* `Reported`: no dispatch is reported twice.

* `Sound`: all invariants of changes together, with those of the modules before.
* `run?_faithful`: so every ticket is in one place, and every answer is final.

A number is given to a dispatch when it is made, whether or not a worker takes it, so that numbers
of dispatches and places in the list of assignments are one thing.  Tickets are numbers of
submissions, and as tasks stay in line the two agree.  The definitions do not rely on this: events
are told apart by their dispatches, and an owner is found by the ticket in the slot.
-/

namespace Decipher

namespace Pool

variable {p q : Pool}

/-! ## Tasks in line -/

/-- The tasks of all submissions. -/
def tasks (p : Pool) : List Task := p.payloads.mapIdx Task.mk

/-- The tasks from the one that was assigned first to the one that was submitted last.  Receiving
and dispatching only move the bounds between its parts, so that no task overtakes another. -/
def line (p : Pool) : List Task := p.assignments.map Assignment.task ++ p.queue ++ p.channel

theorem getElem?_tasks {ticket : Nat} {task : Task} (found : p.tasks[ticket]? = some task) :
    task.ticket = ticket ∧ p.payloads[ticket]? = some task.payload := by
  simp only [tasks, List.getElem?_mapIdx, Option.map_eq_some_iff] at found
  obtain ⟨payload, there, rfl⟩ := found
  exact ⟨rfl, there⟩

/-- **Tasks stay in the order of their submission.**  Until the dispatcher is gone none
leaves the line but by being assigned. -/
structure InLine (p : Pool) : Prop where
  order : p.line <+: p.tasks
  whole : p.phase = .active → p.line = p.tasks

theorem start_inLine {concurrency timeout : Nat} {starts : Nat → Bool}
    (h : start concurrency timeout starts = .ok p) : p.InLine := by
  obtain ⟨-, rfl⟩ := start_eq_ok h
  exact ⟨List.prefix_rfl, fun _ => rfl⟩

/-- The line only moves: a task goes from its head to the assignments, or from the channel to the
queue, or a new one is added at its end. -/
theorem Change.inLine (change : Change p q) (inLine : p.InLine) : q.InLine := by
  have kept (line : q.line = p.line) (tasks : q.tasks = p.tasks)
      (active : q.phase = .active → p.phase = .active) : q.InLine := by
    refine ⟨by rw [line, tasks]; exact inLine.order, fun now => ?_⟩
    rw [line, tasks]
    exact inLine.whole (active now)
  cases change with
  | submit payload owned active =>
      have whole := inLine.whole active
      have longer : p.line ++ [⟨p.payloads.length, payload⟩] =
          (p.payloads ++ [payload]).mapIdx Task.mk := by
        rw [whole, List.mapIdx_append]
        simp [tasks]
      rw [line, List.append_assoc] at longer
      constructor
      · rw [tasks, ← longer]
        simp [line]
      · intro _
        rw [tasks, ← longer]
        simp [line]
  | reject payload owned gone =>
      refine ⟨inLine.order.trans ?_, fun active => absurd active gone⟩
      simp [tasks, List.mapIdx_append]
  | receive task rest active waiting =>
      exact kept (by simp [line, waiting]) rfl (fun _ => active)
  | assign slot assigns =>
      -- The task goes from the front of the queue to the end of the assignments.
      have active := assigns.active
      cases assigns with
      | hand s generation calls task rest _ waiting found idle =>
          exact kept (by simp [line, waiting]) rfl (fun _ => active)
      | refuse s task rest _ waiting found idle unstaffed fails =>
          exact kept (by simp [line, waiting]) rfl (fun _ => active)
  | drain active listening waiting idle => exact kept rfl rfl (fun _ => active)
  | stop active =>
      refine ⟨List.IsPrefix.trans ?_ inLine.order, fun now => by cases now⟩
      simp [line, Pool.stop, List.append_assoc]
  | _ => exact kept rfl rfl id

/-- What a place in the line says about the submission. -/
theorem InLine.getElem?_line (inLine : p.InLine) {ticket : Nat} {task : Task}
    (found : p.line[ticket]? = some task) :
    task.ticket = ticket ∧ p.payloads[ticket]? = some task.payload :=
  getElem?_tasks (getElem?_of_isPrefix inLine.order found)

/-- Dispatches are numbered like submissions. -/
theorem InLine.assignment (inLine : p.InLine) {dispatch slot : Nat} {task : Task}
    (found : p.assignments[dispatch]? = some ⟨slot, task⟩) :
    task.ticket = dispatch ∧ p.payloads[dispatch]? = some task.payload := by
  apply inLine.getElem?_line
  have bound : dispatch < p.assignments.length := (List.getElem?_eq_some_iff.mp found).1
  rw [line, List.append_assoc, List.getElem?_append_left (by simpa using bound)]
  simp [found]

/-- A task that waits has the payload that was submitted under its ticket. -/
theorem InLine.waiting (inLine : p.InLine) {task : Task}
    (waits : task ∈ p.queue ∨ task ∈ p.channel) :
    p.payloads[task.ticket]? = some task.payload := by
  have member : task ∈ p.line := by
    simp only [line, List.mem_append]
    rcases waits with queued | channelled
    · exact Or.inl (Or.inr queued)
    · exact Or.inr channelled
  obtain ⟨ticket, found⟩ := List.getElem?_of_mem member
  obtain ⟨rfl, there⟩ := inLine.getElem?_line found
  exact there

/-! ## Slots and their assignments -/

/-- What a slot works on was assigned to it.  This goes for the task that the dispatcher thinks the
slot has, and for the jobs that its worker has. -/
structure Agrees (assignments : List Assignment) (slot : Nat) (s : Slot) : Prop where
  busy : ∀ dispatch task, s.state = .busy dispatch task →
    assignments[dispatch]? = some ⟨slot, task⟩
  job : ∀ job ∈ s.jobs, ∃ ticket,
    assignments[job.dispatch]? = some ⟨slot, ⟨ticket, job.payload⟩⟩
  /-- A slot without a worker never got anything. -/
  staffed : s.staffed = false → s.state = .idle

/-- What was assigned to a slot stays assigned to it.  The record of dispatches only grows. -/
theorem Agrees.mono {before after : List Assignment} {slot : Nat} {s : Slot}
    (more : before <+: after) (agrees : Agrees before slot s) : Agrees after slot s where
  busy dispatch task busy := getElem?_of_isPrefix more (agrees.busy dispatch task busy)
  job job member := by
    obtain ⟨ticket, found⟩ := agrees.job job member
    exact ⟨ticket, getElem?_of_isPrefix more found⟩
  staffed := agrees.staffed

/-- Who loses the dispatcher loses nothing that was assigned. -/
theorem Agrees.abandon {assignments : List Assignment} {slot : Nat} {s : Slot}
    (agrees : Agrees assignments slot s) : Agrees assignments slot s.abandon := by
  cases state : s.state with
  | busy dispatch task =>
      have now : s.abandon = { s with state := .draining dispatch } := by
        simp [Slot.abandon, state]
      rw [now]
      refine ⟨by simp, agrees.job, fun unstaffed => ?_⟩
      have idle := agrees.staffed unstaffed
      rw [state] at idle
      cases idle
  | _ =>
      have now : s.abandon = s := by simp [Slot.abandon, state]
      rw [now]
      exact agrees

/-- **All slots work on what was assigned to them.**  This ties what workers do to the record of
dispatches, which nobody takes back. -/
def Assigned (p : Pool) : Prop :=
  ∀ slot s, p.slots[slot]? = some s → Agrees p.assignments slot s

theorem start_assigned {concurrency timeout : Nat} {starts : Nat → Bool}
    (h : start concurrency timeout starts = .ok p) : p.Assigned := by
  intro slot s found
  obtain ⟨idle, empty, free⟩ := start_slot h found
  exact ⟨by simp [idle], by simp [Slot.jobs, empty, free], fun _ => idle⟩

/-- What a slot works on is changed by an assignment, which is noted for that slot; an event can
only take it away. -/
theorem Change.assigned (change : Change p q) (assigned : p.Assigned) : q.Assigned := by
  intro slot t found
  obtain ⟨s, there, became⟩ := change.slot found
  -- What was assigned stays so, and only the change of the slot itself has to be looked at.
  have old := (assigned slot s there).mono change.log.assignments
  cases became with
  | same => exact old
  | hand generation task idle noted =>
      have new : q.assignments[p.assignments.length]? = some ⟨slot, task⟩ := by
        rw [noted, List.getElem?_concat_length]
      refine ⟨?_, ?_, by simp⟩
      · rintro dispatch other busy
        cases busy
        exact new
      · intro job member
        rw [Slot.jobs, ← List.append_assoc, List.mem_append, List.mem_singleton] at member
        rcases member with before | rfl
        · exact old.job job before
        · exact ⟨task.ticket, new⟩
  | refuse idle => exact ⟨old.busy, old.job, fun _ => idle⟩
  | free => exact ⟨by simp, old.job, by simp⟩
  | overrun dispatch task busy =>
      refine ⟨by simp, old.job, fun unstaffed => ?_⟩
      have idle := old.staffed unstaffed
      rw [busy] at idle
      cases idle
  | begin job rest free waiting =>
      exact ⟨old.busy, by simpa [Slot.jobs, free, waiting] using old.job, old.staffed⟩
  | finish job report runs noted =>
      refine ⟨old.busy, fun other member => old.job other ?_, old.staffed⟩
      exact List.mem_append_right _ (by simpa [Slot.jobs] using member)
  | abandon => exact old.abandon

/-! ## Reports and their jobs -/

/-- **Each dispatch is reported once, by the worker it was assigned to.**  Reports stay on record
after the dispatcher has attended to them, so that a second one would show. -/
structure Reported (p : Pool) : Prop where
  assigned : ∀ entry ∈ p.reports, ∃ slot ticket,
    p.assignments[entry.1.dispatch]? = some ⟨slot, ⟨ticket, entry.1.payload⟩⟩
  once : (p.reports.map fun entry => entry.1.dispatch).Nodup
  /-- A job that was not finished was not reported. -/
  fresh : ∀ (slot : Nat) (s : Slot), p.slots[slot]? = some s → ∀ job ∈ s.jobs,
    ∀ entry ∈ p.reports, entry.1.dispatch ≠ job.dispatch
  /-- What the dispatcher is told is what the worker reported. -/
  told : ∀ slot dispatch report, PoolEvent.completed slot dispatch report ∈ p.events →
    ∃ ticket payload, p.assignments[dispatch]? = some ⟨slot, ⟨ticket, payload⟩⟩ ∧
      (⟨dispatch, payload⟩, report) ∈ p.reports

theorem start_reported {concurrency timeout : Nat} {starts : Nat → Bool}
    (h : start concurrency timeout starts = .ok p) : p.Reported := by
  obtain ⟨-, rfl⟩ := start_eq_ok h
  exact ⟨by simp, by simp, by simp, by simp⟩

/-- What the dispatcher is told comes from a worker that finished its job.  Other changes take
events off the list, or add what timers say. -/
theorem Change.events (change : Change p q) {slot dispatch : Nat} {report : Report}
    (member : PoolEvent.completed slot dispatch report ∈ q.events) :
    PoolEvent.completed slot dispatch report ∈ p.events ∨
      ∃ s job, p.slots[slot]? = some s ∧ job ∈ s.jobs ∧ job.dispatch = dispatch ∧
        (job, report) ∈ q.reports := by
  cases change with
  | assign _ assigns => cases assigns <;> exact Or.inl member
  | report _ _ _ _ _ rest _ told _ _ => exact Or.inl (told ▸ List.mem_cons_of_mem _ member)
  | release _ _ _ _ rest _ told _ _ => exact Or.inl (told ▸ List.mem_cons_of_mem _ member)
  | overrun _ _ _ _ rest _ told _ _ => exact Or.inl (told ▸ List.mem_cons_of_mem _ member)
  | ignore _ rest _ told _ => exact Or.inl (told ▸ List.mem_cons_of_mem _ member)
  | finish place s job report found runs =>
      rcases List.mem_append.mp member with before | now
      · exact Or.inl before
      · rw [List.mem_singleton] at now
        cases now
        exact Or.inr ⟨s, job, found, by simp [Slot.jobs, runs], rfl, by simp⟩
  | expire timer armed => exact Or.inl (by simpa using member)
  | _ => exact Or.inl member

/-- A dispatch that was reported was made. -/
theorem Reported.lt_length (reported : p.Reported) {entry : Job × Report}
    (member : entry ∈ p.reports) : entry.1.dispatch < p.assignments.length := by
  obtain ⟨slot, ticket, found⟩ := reported.assigned entry member
  exact (List.getElem?_eq_some_iff.mp found).1

/-- Changes in which no worker finishes.  There is no new report then, and a job that is new has a
number that no report can have yet. -/
theorem Change.reported_of_eq (change : Change p q) (same : q.reports = p.reports)
    (assigned : p.Assigned) (reported : p.Reported) : q.Reported := by
  have log := change.log
  refine ⟨?_, same ▸ reported.once, ?_, ?_⟩
  · intro entry member
    rw [same] at member
    obtain ⟨slot, ticket, found⟩ := reported.assigned entry member
    exact ⟨slot, ticket, log.assignment found⟩
  · intro slot t found job member entry member'
    rw [same] at member'
    obtain ⟨s, there, became⟩ := change.slot found
    rcases became.jobs member with before | ⟨-, now⟩
    · exact reported.fresh slot s there job before entry member'
    · rw [now]
      exact Nat.ne_of_lt (reported.lt_length member')
  · intro slot dispatch report member
    rcases change.events member with before | ⟨s, job, found, member', rfl, noted⟩
    · obtain ⟨ticket, payload, found, noted⟩ := reported.told slot dispatch report before
      exact ⟨ticket, payload, log.assignment found, same ▸ noted⟩
    · obtain ⟨ticket, found'⟩ := (assigned slot s found).job job member'
      exact ⟨ticket, job.payload, log.assignment found', noted⟩

/-- A worker finishes its job.  No other slot was assigned the dispatch, and the slot itself
has nothing else to do. -/
theorem finish_reported {slot : Nat} {s : Slot} {job : Job} {report : Report}
    (found : p.slots[slot]? = some s) (runs : s.running = some job)
    (same : q.reports = p.reports ++ [(job, report)]) (change : Change p q)
    (slots : q.slots = p.slots.set slot { s with running := none }) (engaged : p.Engaged)
    (assigned : p.Assigned) (reported : p.Reported) : q.Reported := by
  have log := change.log
  have runs' : job ∈ s.jobs := by simp [Slot.jobs, runs]
  obtain ⟨ticket, mine⟩ := (assigned slot s found).job job runs'
  refine ⟨?_, ?_, ?_, ?_⟩
  · intro entry member
    rw [same, List.mem_append, List.mem_singleton] at member
    rcases member with before | rfl
    · obtain ⟨slot', ticket', found'⟩ := reported.assigned entry before
      exact ⟨slot', ticket', log.assignment found'⟩
    · exact ⟨slot, ticket, log.assignment mine⟩
  · -- The job was with the worker until now, and so it was not reported before.
    rw [same, List.map_append, List.map_singleton, List.nodup_append]
    refine ⟨reported.once, by simp, ?_⟩
    intro dispatch before other now
    rw [List.mem_singleton] at now
    rw [List.mem_map] at before
    obtain ⟨entry, member, rfl⟩ := before
    rw [now]
    exact reported.fresh slot s found job runs' entry member
  · intro other t found' job' member entry member'
    rw [slots] at found'
    rw [same, List.mem_append, List.mem_singleton] at member'
    rcases Slot.eq_or_of_getElem?_set found' with ⟨rfl, rfl⟩ | ⟨apart, there⟩
    · -- The slot itself has no other job; those of other slots were assigned to them.
      obtain ⟨-, empty, -⟩ := engaged.running found runs
      simp [Slot.jobs, empty] at member
    · rcases member' with before | rfl
      · exact reported.fresh other t there job' member entry before
      · intro equal
        obtain ⟨ticket', theirs⟩ := (assigned other t there).job job' member
        rw [← equal, mine, Option.some.injEq, Assignment.mk.injEq] at theirs
        exact apart theirs.1.symm
  · intro slot' dispatch report' member
    rcases change.events member with before | ⟨s', job', found', member', rfl, noted⟩
    · obtain ⟨ticket', payload, found', noted⟩ := reported.told slot' dispatch report' before
      exact ⟨ticket', payload, log.assignment found', log.reports.subset noted⟩
    · obtain ⟨ticket', found''⟩ := (assigned slot' s' found').job job' member'
      exact ⟨ticket', job'.payload, log.assignment found'', noted⟩

/-- Reports come from workers that finish.  Nothing else that a pool does adds to them, and nothing
takes one away. -/
theorem Change.reports (change : Change p q) :
    q.reports = p.reports ∨
      ∃ slot s job report, p.slots[slot]? = some s ∧ s.running = some job ∧
        q.reports = p.reports ++ [(job, report)] ∧
        q.slots = p.slots.set slot { s with running := none } := by
  cases change with
  | assign _ assigns => cases assigns <;> exact Or.inl rfl
  | finish slot s job report found runs =>
      exact Or.inr ⟨slot, s, job, report, found, runs, rfl, rfl⟩
  | _ => exact Or.inl rfl

/-- Every report is of a dispatch that was made and not reported before.  A worker reports the job
that it runs, and is rid of it then. -/
theorem Change.reported (change : Change p q) (engaged : p.Engaged) (assigned : p.Assigned)
    (reported : p.Reported) : q.Reported := by
  rcases change.reports with same | ⟨slot, s, job, report, found, runs, more, slots⟩
  · exact change.reported_of_eq same assigned reported
  · exact finish_reported found runs more change slots engaged assigned reported

/-! ## All of it together -/

/-- **What holds of a pool at all times.**  The parts rest on one another, so that they are kept
together by one change at a time. -/
structure Sound (p : Pool) : Prop where
  accounted : p.Accounted
  woundUp : p.WoundUp
  engaged : p.Engaged
  inLine : p.InLine
  assigned : p.Assigned
  reported : p.Reported

theorem start_sound {concurrency timeout : Nat} {starts : Nat → Bool}
    (h : start concurrency timeout starts = .ok p) : p.Sound where
  accounted := start_accounted h
  woundUp := start_woundUp h
  engaged := start_engaged h
  inLine := start_inLine h
  assigned := start_assigned h
  reported := start_reported h

/-- All of it is kept by every change. -/
theorem Change.sound (change : Change p q) (sound : p.Sound) : q.Sound where
  accounted := change.accounted sound.accounted
  woundUp := change.woundUp sound.woundUp
  engaged := change.engaged sound.engaged
  inLine := change.inLine sound.inLine
  assigned := change.assigned sound.assigned
  reported := change.reported sound.engaged sound.assigned sound.reported

/-- All of it holds at all times of every run. -/
theorem run?_sound {concurrency timeout : Nat} {starts : Nat → Bool} {moves : List PoolMove}
    (hstart : start concurrency timeout starts = .ok p) (h : p.run? moves = some q) : q.Sound :=
  run?_induction h (start_sound hstart) Change.sound

theorem step?_sound {move : PoolMove} (h : p.step? move = some q) (sound : p.Sound) : q.Sound :=
  changes_induction (step?_changes h).to_reflTransGen sound Change.sound

/-- What every change of a sound pool keeps holds at all times of every run. -/
theorem run?_sound_induction {P : Pool → Prop} {concurrency timeout : Nat} {starts : Nat → Bool}
    {moves : List PoolMove} (hstart : start concurrency timeout starts = .ok p)
    (h : p.run? moves = some q) (start : P p)
    (change : ∀ {r r' : Pool}, Change r r' → r.Sound → P r → P r') : P q :=
  (run?_induction (P := fun r => r.Sound ∧ P r) h ⟨start_sound hstart, start⟩
    fun first both => ⟨first.sound both.1, change first both.1 both.2⟩).2

/-- A task whose owner waits is the task that the owner submitted, wherever it is: in a slot by what
the slot was assigned, and else by its place in the line. -/
theorem Sound.unanswered (sound : p.Sound) {task : Task} (waits : task ∈ p.unanswered) :
    p.payloads[task.ticket]? = some task.payload := by
  simp only [Pool.unanswered, List.mem_append, List.mem_filterMap] at waits
  rcases waits with (⟨s, member, works⟩ | queued) | channelled
  · obtain ⟨slot, found⟩ := List.getElem?_of_mem member
    cases state : s.state with
    | busy dispatch other =>
        rw [state] at works
        cases works
        have noted := (sound.assigned slot s found).busy dispatch task state
        obtain ⟨same, submitted⟩ := sound.inLine.assignment noted
        rw [same]
        exact submitted
    | _ =>
        rw [state] at works
        cases works
  · exact sound.inLine.waiting (Or.inl queued)
  · exact sound.inLine.waiting (Or.inr channelled)

/-! ## What was submitted -/

/-- The payload that a move submits.  Only a submission brings one in, so that the moves alone say
which payloads a pool has got. -/
def submitted? : PoolMove → Option String
  | .submit payload => some payload
  | _ => none

/-- A move submits what it says, and nothing else. -/
theorem step?_payloads {move : PoolMove} (h : p.step? move = some q) :
    q.payloads = p.payloads ++ (submitted? move).toList := by
  cases step?_step h with
  | submit payload owned =>
      unfold submit
      dsimp only
      split <;> rfl
  | attend event rest active told => simp [submitted?]
  | _ => simp [submitted?, stop]

/-- A run has submitted what its moves say, in their order. -/
theorem run?_payloads {moves : List PoolMove} (h : p.run? moves = some q) :
    q.payloads = p.payloads ++ moves.filterMap submitted? := by
  induction moves generalizing p with
  | nil =>
      cases h
      simp
  | cons move rest ih =>
      simp only [run?, Option.bind_eq_some_iff] at h
      obtain ⟨r, first, more⟩ := h
      rw [ih more, step?_payloads first, List.append_assoc]
      cases payload : submitted? move <;> simp [payload]

/-! ## What owners may rely on -/

/-- **How a pool that made some moves treats its tasks.**  Nothing is asked of the moves, so that a
pool is faithful in every state that it can be in. -/
structure Faithful (moves : List PoolMove) (p : Pool) : Prop where
  /-- Every submission counts, and nothing else does. -/
  submitted : p.payloads = moves.filterMap submitted?
  /-- A ticket that was given out is found once: in the channel, in the queue, in a slot that
  owes the answer, or among the answers. -/
  once : ∀ ticket,
    p.inChannel ticket + p.inQueue ticket + p.inSlots ticket + p.timesAnswered ticket =
      if ticket < p.payloads.length then 1 else 0
  /-- Who waits waits for what they submitted. -/
  own : ∀ task ∈ p.unanswered, p.payloads[task.ticket]? = some task.payload
  /-- An answer is final. -/
  final : ∀ (more : List PoolMove) (q : Pool), p.run? more = some q → p.answers <+: q.answers
  /-- The dispatcher may be stopped at any time, and then all who wait, and all who submit
  later, are told that the pool is closed. -/
  closing : p.phase = .active → ∃ q, p.step? .stop = some q ∧
    ∀ (more : List PoolMove) (r : Pool), q.run? more = some r → ClosedSince p r

/-- **No task is lost, none is there twice, and no owner is told twice**, whatever the order
in which things happen. -/
theorem run?_faithful {concurrency timeout : Nat} {starts : Nat → Bool} {moves : List PoolMove}
    (hstart : start concurrency timeout starts = .ok p) (h : p.run? moves = some q) :
    Faithful moves q := by
  have sound := run?_sound hstart h
  obtain ⟨-, fresh⟩ := start_eq_ok hstart
  refine ⟨?_, sound.accounted, fun task waits => sound.unanswered waits,
    fun more r later => (run?_log later).answers, fun active => ?_⟩
  · rw [run?_payloads h, fresh]
    rfl
  · have stops : q.step? .stop = some q.stop := if_pos active
    exact ⟨q.stop, stops, fun more r later => run?_after_stop sound.accounted stops later⟩

/-- A task that is timed out while it runs is answered once, in spite of its late report. -/
theorem overtaken_faithful :
    ∃ p q, start 1 30 = .ok p ∧ p.run? overtaken = some q ∧ Faithful overtaken q ∧
      q.answers = [(0, .error (.timeout 30)), (1, .ok "in time")] := by
  have starts : start 1 30 = .ok solo := rfl
  have ends : (solo.run? overtaken).map Pool.answers =
      some [(0, .error (.timeout 30)), (1, .ok "in time")] := rfl
  obtain ⟨q, run, answers⟩ := Option.map_eq_some_iff.mp ends
  exact ⟨solo, q, starts, run, run?_faithful starts run, answers⟩

end Pool

end Decipher
