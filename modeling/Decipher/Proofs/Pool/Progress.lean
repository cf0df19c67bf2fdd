import Decipher.Proofs.Pool.Assignment

/-!
# Progress of a pool

Nothing in a pool waits in vain.

* `Spends`: every change uses up some of the backlog there is, or lets a timer expire, and only a
  submission brings more of either (`Change.spends`).  So a pool makes so many moves at most as its
  submissions give it work for (`Change.work`, `run?_length_le`), and at no time is there more to do
  than they account for (`run?_backlog_le`).
* `Prompt`: after each turn of the dispatcher no task waits while a slot is idle.
* `Quiet.answered`: when neither the dispatcher nor a worker can do anything, every owner
  has an answer.
* `exists_quiet`: from every state on a pool comes to that point, whatever the transform.

The measure has two parts, as a timer that expires makes an event, which is work.  So expiring does
not use up backlog; but there are only so many timers, and each expires once.  Weights are chosen
so that each change uses up something: a task counts six in the channel, five in the queue, three
in a mailbox, two on a desk, and its event one.  An assignment turns five into three of the
worker's and one of its timer's.

The measure is a bound and no prediction: a task that is refused leaves its queue at once, and a
stop drops what waits.
-/

namespace Decipher

open Relation

/-- What a worker has to do, in moves.  A job that waits has to be begun, to be finished and to be
attended to. -/
def Slot.load (s : Slot) : Nat := 3 * s.mailbox.length + 2 * s.running.toList.length

theorem Slot.load_eq (s : Slot) :
    s.load = 3 * s.mailbox.length + 2 * s.running.toList.length := rfl

theorem Slot.load_mk (generation : UInt32) (staffed : Bool) (state : SlotState)
    (mailbox : List Job) (running : Option Job) :
    (Slot.mk generation staffed state mailbox running).load =
      3 * mailbox.length + 2 * running.toList.length := rfl

/-- A worker that is left alone still has as much to do. -/
@[simp] theorem Slot.load_abandon (s : Slot) : s.abandon.load = s.load := by
  unfold abandon
  split <;> rfl

namespace Pool

variable {p q : Pool}

/-! ## Work is used up -/

/-- A bound on the moves that are left if nobody submits and no timer expires.  A task that waits
counts for all that can come of it then: it is received, dispatched, begun and finished, and two
events are attended to.  A timer counts for the second of them. -/
def backlog (p : Pool) : Nat :=
  6 * p.channel.length + 5 * p.queue.length + (p.slots.map Slot.load).sum + p.events.length +
    p.timers.length + p.halted.length + p.owned.toNat + p.listening.toNat +
    (decide (p.phase = .active)).toNat

/-- A bound on how often a timer can still expire if nobody submits: the timers that there are,
stopped ones among them, and those that the tasks that wait are still to be given. -/
def alarms (p : Pool) : Nat :=
  p.channel.length + p.queue.length + p.timers.length + p.halted.length

/-- A bound on the moves that are left if nobody submits.  It counts what tasks and timers can still
give rise to. -/
def work (p : Pool) : Nat := p.backlog + p.alarms

/-- A timer that is taken off the list makes it shorter. -/
theorem length_filter_ne_lt {timers : List Timer} {timer : Timer} (member : timer ∈ timers) :
    (timers.filter (· ≠ timer)).length < timers.length := by
  rw [List.length_filter_lt_length_iff_exists]
  exact ⟨timer, member, by simp⟩

/-- A timer that expires is missing in one list at least, be it the one of stopped timers. -/
theorem length_expired_lt {timer : Timer} (armed : timer ∈ p.timers ∨ timer ∈ p.halted) :
    (p.timers.filter (· ≠ timer)).length + (p.halted.filter (· ≠ timer)).length <
      p.timers.length + p.halted.length := by
  have timers := List.length_filter_le (· ≠ timer) p.timers
  have halted := List.length_filter_le (· ≠ timer) p.halted
  rcases armed with armed | armed
  · have fewer := length_filter_ne_lt armed
    omega
  · have fewer := length_filter_ne_lt armed
    omega

/-- A timer that is stopped only moves. -/
theorem length_filter_ne_add (timers : List Timer) (timer : Timer) :
    (timers.filter (· ≠ timer)).length + (timers.filter (· = timer)).length = timers.length := by
  induction timers with
  | nil => rfl
  | cons first rest ih =>
      by_cases same : first = timer <;> simp [same] at ih ⊢ <;> omega

/-- What a worker has to do does not depend on whom its slot is taken by. -/
theorem sum_load_set_state {slot : Nat} {s : Slot} (found : p.slots[slot]? = some s)
    (state : SlotState) :
    ((p.slots.set slot { s with state }).map Slot.load).sum = (p.slots.map Slot.load).sum := by
  have slots := Slot.sum_set Slot.load found { s with state }
  simp only [Slot.load_mk, ← Slot.load_eq] at slots
  omega

/-- **What a change costs.**  Most changes use up backlog.  A timer that expires makes an event of
itself, so that there is one alarm less.  Only a submission makes more of either. -/
inductive Spends (p q : Pool) : Prop
  | works (less : q.backlog < p.backlog) (alarms : q.alarms ≤ p.alarms)
      (same : q.payloads = p.payloads)
  | expires (kept : q.backlog ≤ p.backlog) (fewer : q.alarms < p.alarms)
      (same : q.payloads = p.payloads)
  | submits (payload : String) (backlog : q.backlog ≤ p.backlog + 6)
      (alarms : q.alarms ≤ p.alarms + 1) (more : q.payloads = p.payloads ++ [payload])

/-- A task that is assigned leaves the queue, where it counts for five moves.  If a slot is handed
it, three are the worker's and one its timer's; if it is refused, none is left. -/
theorem Assigns.less {slot : Nat} (assigns : Assigns p slot q) :
    q.backlog < p.backlog ∧ q.alarms ≤ p.alarms := by
  cases assigns with
  | hand s generation calls task rest active waiting found idle =>
      have slots := Slot.sum_set Slot.load found ⟨generation, true, .busy p.assignments.length task,
        s.mailbox ++ [⟨p.assignments.length, task.payload⟩], s.running⟩
      simp only [Slot.load_mk, List.length_append, List.length_singleton] at slots
      have load := s.load_eq
      simp only [backlog, alarms, waiting, List.length_cons, List.length_append, List.length_nil]
      omega
  | refuse s task rest active waiting found idle unstaffed fails =>
      have slots := Slot.sum_set Slot.load found
        { s with generation := s.generation + 1, staffed := false }
      simp only [Slot.load_mk, ← Slot.load_eq] at slots
      simp only [backlog, alarms, waiting, List.length_cons]
      omega

/-- An event that is attended to is off the list.  If a timer is stopped over it, the timer only
goes from one list to another. -/
theorem spends_of_told {event : PoolEvent} {rest : List PoolEvent} (told : p.events = event :: rest)
    (slots : (q.slots.map Slot.load).sum = (p.slots.map Slot.load).sum)
    (events : q.events = rest)
    (timers : q.timers.length + q.halted.length = p.timers.length + p.halted.length)
    (channel : q.channel = p.channel) (queue : q.queue = p.queue) (owned : q.owned = p.owned)
    (listening : q.listening = p.listening) (phase : q.phase = p.phase)
    (same : q.payloads = p.payloads) : Spends p q := by
  refine .works ?_ ?_ same
  · simp only [backlog, told, slots, events, channel, queue, owned, listening, phase,
      List.length_cons]
    omega
  · simp only [alarms, channel, queue]
    omega

/-- A job that is begun goes from the mailbox to the desk, where it counts for one move less. -/
theorem spends_begin {slot : Nat} {s : Slot} {job : Job} {rest : List Job}
    (found : p.slots[slot]? = some s) (free : s.running = none)
    (waiting : s.mailbox = job :: rest) :
    Spends p
      { p with slots := p.slots.set slot { s with mailbox := rest, running := some job } } := by
  have slots := Slot.sum_set Slot.load found { s with mailbox := rest, running := some job }
  have load := s.load_eq
  simp only [Slot.load_mk, Option.toList_some, List.length_singleton] at slots
  simp only [waiting, free, List.length_cons, Option.toList_none, List.length_nil] at load
  refine .works ?_ (Nat.le_refl _) rfl
  simp only [backlog]
  omega

/-- A job that is finished leaves one move, in which its event is attended to. -/
theorem spends_finish {slot : Nat} {s : Slot} {job : Job} (found : p.slots[slot]? = some s)
    (runs : s.running = some job) (event : PoolEvent) (reports : List (Job × Report)) :
    Spends p
      { p with
        slots := p.slots.set slot { s with running := none }
        events := p.events ++ [event]
        reports } := by
  have slots := Slot.sum_set Slot.load found { s with running := none }
  have load := s.load_eq
  simp only [Slot.load_mk, Option.toList_none, List.length_nil] at slots
  simp only [runs, Option.toList_some, List.length_singleton] at load
  refine .works ?_ (Nat.le_refl _) rfl
  simp only [backlog, List.length_append, List.length_singleton]
  omega

/-- A timer that expires is off its list, whether it was still armed or stopped, and what it has to
say waits. -/
theorem spends_expire {timer : Timer} (armed : timer ∈ p.timers ∨ timer ∈ p.halted)
    (event : PoolEvent) :
    Spends p
      { p with
        timers := p.timers.filter (· ≠ timer)
        halted := p.halted.filter (· ≠ timer)
        events := p.events ++ [event] } := by
  have fewer := length_expired_lt armed
  refine .expires ?_ ?_ rfl
  · simp only [backlog, List.length_append, List.length_singleton]
    omega
  · simp only [alarms]
    omega

/-- A dispatcher that is stopped drops what waits, and makes no move any more. -/
theorem spends_stop (active : p.phase = .active) : Spends p p.stop := by
  have same : p.stop.slots.map Slot.load = p.slots.map Slot.load := by
    simp [Pool.stop]
  refine .works ?_ ?_ rfl
  · simp only [backlog, same]
    simp only [Pool.stop, active, List.length_nil, decide_true, Bool.toNat_true]
    simp
    omega
  · simp [alarms, Pool.stop]

/-- Every change spends something, but for a submission.  This is where the weights of `backlog` are
compared, one change after another. -/
theorem Change.spends (change : Change p q) : Spends p q := by
  cases change with
  | submit payload owned active =>
      refine .submits payload ?_ ?_ rfl
      · simp only [backlog, List.length_append, List.length_singleton]
        omega
      · simp only [alarms, List.length_append, List.length_singleton]
        omega
  | reject payload owned gone =>
      exact .submits payload (Nat.le_add_right _ _) (Nat.le_add_right _ _) rfl
  | leave owned =>
      refine .works ?_ (Nat.le_refl _) rfl
      simp only [backlog, owned, Bool.toNat_true, Bool.toNat_false]
      omega
  | receive task rest active waiting =>
      refine .works ?_ ?_ rfl
      · simp only [backlog, waiting, List.length_cons, List.length_append, List.length_nil]
        omega
      · simp only [alarms, waiting, List.length_cons, List.length_append, List.length_nil]
        omega
  | close active waiting listening owned =>
      refine .works ?_ (Nat.le_refl _) rfl
      simp only [backlog, listening, Bool.toNat_true, Bool.toNat_false]
      omega
  | assign slot assigns => exact .works assigns.less.1 assigns.less.2 assigns.payloads
  | drain active listening waiting idle =>
      refine .works ?_ (Nat.le_refl _) rfl
      simp [backlog, active]
  | report slot s dispatch task report rest active told found busy =>
      refine spends_of_told told (sum_load_set_state found _) rfl ?_ rfl rfl rfl rfl rfl rfl
      have timers := length_filter_ne_add p.timers ⟨slot, dispatch⟩
      simp only [List.length_append]
      omega
  | release slot s dispatch report rest active told found draining =>
      exact spends_of_told told (sum_load_set_state found _) rfl rfl rfl rfl rfl rfl rfl rfl
  | overrun slot s dispatch task rest active told found busy =>
      exact spends_of_told told (sum_load_set_state found _) rfl rfl rfl rfl rfl rfl rfl rfl
  | ignore event rest active told stale =>
      exact spends_of_told told rfl rfl rfl rfl rfl rfl rfl rfl rfl
  | begin slot s job rest found staffed free waiting => exact spends_begin found free waiting
  | finish slot s job report found runs => exact spends_finish found runs _ _
  | expire timer armed => exact spends_expire armed _
  | stop active => exact spends_stop active

/-- **Every change uses up work.**  A submission brings as much as eight moves can use up.  So a
pool comes to rest, if only submissions do. -/
theorem Change.work (change : Change p q) :
    q.work + 8 * p.payloads.length < p.work + 8 * q.payloads.length := by
  unfold Pool.work
  cases change.spends with
  | works less alarms same =>
      rw [same]
      omega
  | expires kept fewer same =>
      rw [same]
      omega
  | submits payload backlog alarms more =>
      rw [more, List.length_append, List.length_singleton]
      omega

/-- What can be done at once is bounded by what was submitted, and so is how often a timer can
still expire. -/
theorem run?_backlog_le {concurrency timeout : Nat} {starts : Nat → Bool} {moves : List PoolMove}
    (hstart : start concurrency timeout starts = .ok p) (h : p.run? moves = some q) :
    q.backlog ≤ 6 * q.payloads.length + 3 ∧ q.alarms ≤ q.payloads.length := by
  obtain ⟨-, rfl⟩ := start_eq_ok hstart
  refine run?_induction
    (P := fun r => r.backlog ≤ 6 * r.payloads.length + 3 ∧ r.alarms ≤ r.payloads.length) h
    ⟨?_, Nat.le_refl _⟩ fun change bounds => ?_
  · simp [backlog, Function.comp_def, Slot.load, List.map_const']
  · cases change.spends with
    | works less alarms same =>
        rw [same]
        omega
    | expires kept fewer same =>
        rw [same]
        omega
    | submits payload backlog alarms more =>
        rw [more, List.length_append, List.length_singleton]
        omega

/-- The moves of a turn use up work together. -/
theorem changes_work (h : TransGen Change p q) :
    q.work + 8 * p.payloads.length < p.work + 8 * q.payloads.length := by
  induction h with
  | single change => exact change.work
  | tail _ last ih =>
      have less := last.work
      omega

/-- **A pool comes to rest.**  It makes so many moves at most as there was work at the start
and as its submissions brought. -/
theorem run?_length_le {moves : List PoolMove} (h : p.run? moves = some q) :
    moves.length + q.work + 8 * p.payloads.length ≤ p.work + 8 * q.payloads.length := by
  induction moves generalizing p with
  | nil =>
      cases h
      simp
  | cons move rest ih =>
      simp only [run?, Option.bind_eq_some_iff] at h
      obtain ⟨r, first, more⟩ := h
      have less := changes_work (step?_changes first)
      have fewer := ih more
      rw [List.length_cons]
      omega

/-! ## No task waits beside an idle slot -/

/-- **The dispatcher leaves no task waiting that it could dispatch.**  This is how it stands between
two moves; in the middle of a turn a slot may be idle for a moment. -/
def Prompt (p : Pool) : Prop :=
  p.phase = .active → p.queue = [] ∨ ∀ s ∈ p.slots, s.state ≠ .idle

theorem idleSlot?_eq_none (h : p.idleSlot? = none) : ∀ s ∈ p.slots, s.state ≠ .idle := by
  intro s member idle
  have busy := List.findIdx?_eq_none_iff.mp h s member
  rw [idle] at busy
  cases busy

/-- Handing out stops for want of tasks, or for want of idle slots. -/
theorem assignAll_prompt (p : Pool) (tasks : List Task) :
    (p.assignAll tasks).queue = [] ∨ ∀ s ∈ (p.assignAll tasks).slots, s.state ≠ .idle := by
  induction tasks generalizing p with
  | nil => exact Or.inl rfl
  | cons task rest ih =>
      unfold assignAll
      split
      · rename_i none
        exact Or.inr (idleSlot?_eq_none none)
      · exact ih _

/-- At the end of a turn no task waits beside an idle slot. -/
theorem settle_prompt (p : Pool) : p.settle.Prompt := by
  intro _
  have assigned := assignAll_prompt p p.queue
  simp only [settle]
  split <;> exact assigned

theorem start_prompt {concurrency timeout : Nat} {starts : Nat → Bool}
    (h : start concurrency timeout starts = .ok p) : p.Prompt := by
  obtain ⟨-, rfl⟩ := start_eq_ok h
  exact fun _ => Or.inl rfl

/-- A slot that is replaced by one in the same state leaves a prompt pool prompt. -/
theorem Prompt.of_set (prompt : p.Prompt) {slot : Nat} {s t : Slot}
    (found : p.slots[slot]? = some s) (slots : q.slots = p.slots.set slot t)
    (same : t.state = s.state) (queue : q.queue = p.queue) (phase : q.phase = p.phase) :
    q.Prompt := by
  intro active
  rw [phase] at active
  rw [queue, slots]
  refine (prompt active).imp_right fun busy u member => ?_
  rcases List.mem_or_eq_of_mem_set member with old | rfl
  · exact busy u old
  · rw [same]
    exact busy s (List.mem_of_getElem? found)

/-- Unlike what single changes keep, this holds only when the dispatcher's turn is over. -/
theorem step?_prompt {move : PoolMove} (prompt : p.Prompt) (h : p.step? move = some q) :
    q.Prompt := by
  cases step?_step h with
  | submit payload owned =>
      unfold submit
      dsimp only
      split <;> exact prompt
  | leave owned => exact prompt
  | begin slot s job rest found staffed free waiting =>
      exact prompt.of_set found rfl rfl rfl rfl
  | finish slot s job report found runs => exact prompt.of_set found rfl rfl rfl rfl
  | expire timer armed => exact prompt
  | stop active => exact fun now => by cases now
  | _ => exact settle_prompt _

theorem run?_prompt {concurrency timeout : Nat} {starts : Nat → Bool} {moves : List PoolMove}
    (hstart : start concurrency timeout starts = .ok p) (h : p.run? moves = some q) :
    q.Prompt :=
  run?_move_induction h (start_prompt hstart) fun first prompt => step?_prompt prompt first

/-! ## Rest -/

/-- Neither the dispatcher nor a worker can do anything. -/
structure Quiet (p : Pool) : Prop where
  receive : p.step? .receive = none
  attend : p.step? .attend = none
  begin : ∀ slot, p.step? (.begin slot) = none
  finish : ∀ slot report, p.step? (.finish slot report) = none

/-- When nothing can happen no worker has anything to do: one that runs a job could finish it, and
one with a job in its mailbox could begin it. -/
theorem Quiet.jobs (quiet : p.Quiet) (assigned : p.Assigned) (engaged : p.Engaged) {slot : Nat}
    {s : Slot} (found : p.slots[slot]? = some s) : s.jobs = [] := by
  have free : s.running = none := by
    have idle := quiet.finish slot (.ok "")
    simpa [step?, found, Slot.finish?] using idle
  have empty : s.mailbox = [] := by
    have stuck := quiet.begin slot
    cases staffed : s.staffed with
    | false => exact (engaged.idle found ((assigned slot s found).staffed staffed)).2.1
    | true =>
        cases waiting : s.mailbox with
        | nil => rfl
        | cons job rest => simp [step?, found, Slot.begin?, staffed, free, waiting] at stuck
  simp [Slot.jobs, free, empty]

/-- When nothing can happen any more no task waits, and no slot is taken, unless the pool has no
slots at all. -/
theorem Quiet.resting (quiet : p.Quiet) (sound : p.Sound) (prompt : p.Prompt)
    (slots : p.slots ≠ []) (unstopped : p.phase ≠ .stopped) :
    p.channel = [] ∧ p.queue = [] ∧ ∀ s ∈ p.slots, s.state = .idle := by
  cases phase : p.phase with
  | stopped => exact absurd phase unstopped
  | drained =>
      obtain ⟨deaf, empty, idle⟩ := sound.woundUp.done phase
      refine ⟨(sound.woundUp.deaf deaf).2, empty, fun s member => ?_⟩
      exact SlotState.isIdle_iff.mp (List.all_eq_true.mp idle s member)
  | active =>
      have channel : p.channel = [] := by
        have stuck := quiet.receive
        cases waiting : p.channel with
        | nil => rfl
        | cons task rest => simp [step?, phase, waiting] at stuck
      have events : p.events = [] := by
        have stuck := quiet.attend
        cases told : p.events with
        | nil => rfl
        | cons event rest => simp [step?, phase, told] at stuck
      -- A slot that is not idle has a job outstanding, and so somebody would have to move.
      have idle : ∀ s ∈ p.slots, s.state = .idle := by
        intro s member
        obtain ⟨slot, found⟩ := List.getElem?_of_mem member
        have one := sound.engaged slot s found
        simp only [outstanding, quiet.jobs sound.assigned sound.engaged found, reported,
          events] at one
        cases state : s.state with
        | idle => rfl
        | _ => simp [state] at one
      refine ⟨channel, ?_, idle⟩
      rcases prompt phase with empty | busy
      · exact empty
      · -- All slots are idle, so that a task in the queue would have been dispatched.
        obtain ⟨s, member⟩ := List.exists_mem_of_ne_nil _ slots
        exact absurd (idle s member) (busy s member)

/-- When no task waits and no slot is taken every owner has an answer. -/
theorem Accounted.answered (accounted : p.Accounted) (channel : p.channel = [])
    (queue : p.queue = []) (idle : ∀ s ∈ p.slots, s.state = .idle) {ticket : Nat}
    (given : ticket < p.payloads.length) : ∃ a, p.answer? ticket = some a := by
  rw [← Option.isSome_iff_exists, ← Option.ne_none_iff_isSome]
  intro silent
  obtain ⟨task, waits, -⟩ := accounted.mem_unanswered given silent
  simp only [Pool.unanswered, channel, queue, List.append_nil, List.mem_filterMap] at waits
  obtain ⟨s, member, works⟩ := waits
  rw [idle s member] at works
  cases works

/-- **When nothing can happen any more every owner has an answer**, unless the pool has no
slots at all. -/
theorem Quiet.answered (quiet : p.Quiet) (sound : p.Sound) (prompt : p.Prompt)
    (slots : p.slots ≠ []) (unstopped : p.phase ≠ .stopped) {ticket : Nat}
    (given : ticket < p.payloads.length) : ∃ a, p.answer? ticket = some a := by
  obtain ⟨channel, queue, idle⟩ := quiet.resting sound prompt slots unstopped
  exact sound.accounted.answered channel queue idle given

/-- A move of the dispatcher or of a worker whose transform is the one given.  No timer and no owner
has a part in it. -/
inductive Inner (transform : String → Report) (p : Pool) : PoolMove → Prop
  | receive : Inner transform p .receive
  | attend : Inner transform p .attend
  | begin (slot : Nat) : Inner transform p (.begin slot)
  | finish (slot : Nat) (s : Slot) (job : Job) (found : p.slots[slot]? = some s)
      (runs : s.running = some job) : Inner transform p (.finish slot (transform job.payload))

theorem settle_phase (active : p.phase = .active) : p.settle.phase ≠ .stopped := by
  simp only [settle]
  split
  · exact fun h => by cases h
  · rw [assignAll_phase, active]
    exact fun h => by cases h

/-- What a pool does on its own stops nobody, submits nothing, and reports what the transform
says. -/
theorem Inner.step {transform : String → Report} {move : PoolMove} (inner : Inner transform p move)
    (h : p.step? move = some q) :
    q.payloads = p.payloads ∧ (p.phase ≠ .stopped → q.phase ≠ .stopped) ∧
      ∀ entry ∈ q.reports, entry ∈ p.reports ∨ entry.2 = transform entry.1.payload := by
  have payloads : q.payloads = p.payloads := by
    rw [step?_payloads h]
    cases inner <;> exact List.append_nil _
  refine ⟨payloads, ?_⟩
  cases inner with
  | finish slot s job found runs =>
      cases step?_step h with
      | finish _ s' job' _ found' runs' =>
          -- The worker finishes the job that it runs, so the report is the transform of its
          -- payload.
          obtain rfl : s = s' := Option.some.inj (found.symm.trans found')
          obtain rfl : job = job' := Option.some.inj (runs.symm.trans runs')
          refine ⟨id, fun entry member => ?_⟩
          rcases List.mem_append.mp member with before | now
          · exact Or.inl before
          · rw [List.mem_singleton] at now
            exact Or.inr (by rw [now])
  | begin slot =>
      cases step?_step h with
      | begin => exact ⟨id, fun entry member => Or.inl member⟩
  | receive =>
      cases step?_step h with
      | receive task rest active waiting =>
          exact ⟨fun _ => settle_phase active, by simp +contextual⟩
      | close active waiting listening owned =>
          exact ⟨fun _ => settle_phase active, by simp +contextual⟩
  | attend =>
      cases step?_step h with
      | attend event rest active told =>
          exact ⟨fun _ => settle_phase (by rw [attend_phase, active]), by simp +contextual⟩

/-- As long as a pool is not quiet it can do something on its own. -/
theorem exists_inner (transform : String → Report) (busy : ¬ p.Quiet) :
    ∃ move q, Inner transform p move ∧ p.step? move = some q := by
  refine Classical.byContradiction fun stuck => ?_
  have none {move : PoolMove} (inner : Inner transform p move) : p.step? move = none :=
    Option.eq_none_iff_forall_ne_some.mpr fun q h => stuck ⟨move, q, inner, h⟩
  refine busy ⟨none .receive, none .attend, fun slot => none (.begin slot), fun slot report => ?_⟩
  refine Option.eq_none_iff_forall_ne_some.mpr fun q h => ?_
  cases step?_step h with
  | finish _ s job _ found runs =>
      have no := none (Inner.finish slot s job found runs)
      simp [step?, found, Slot.finish?, runs] at no

/-- **Left to itself a pool becomes quiet**, whatever the transform.  By induction on the work that
is left, some of which is used up by every move. -/
theorem exists_quiet (transform : String → Report) (p : Pool) :
    ∃ moves q, p.run? moves = some q ∧ q.Quiet ∧ q.payloads = p.payloads ∧
      (p.phase ≠ .stopped → q.phase ≠ .stopped) ∧
      ∀ entry ∈ q.reports, entry ∈ p.reports ∨ entry.2 = transform entry.1.payload := by
  induction left : p.work using Nat.strongRecOn generalizing p with
  | ind n ih =>
      by_cases quiet : p.Quiet
      · exact ⟨[], p, rfl, quiet, rfl, id, fun entry member => Or.inl member⟩
      · obtain ⟨move, r, inner, first⟩ := exists_inner transform quiet
        obtain ⟨same, unstopped, reports⟩ := inner.step first
        have less := changes_work (step?_changes first)
        rw [same] at less
        obtain ⟨moves, q, more, rest, same', unstopped', reports'⟩ :=
          ih r.work (by omega) r rfl
        refine ⟨move :: moves, q, ?_, rest, same'.trans same, unstopped' ∘ unstopped,
          fun entry member => ?_⟩
        · rw [run?, first]
          exact more
        · rcases reports' entry member with before | now
          · exact reports entry before
          · exact Or.inr now

end Pool

end Decipher
