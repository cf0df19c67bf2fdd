import Decipher.Proofs.Pool.Departure
import Decipher.Proofs.Pool.Service

/-!
# Whom a timer hits

A timer cannot be called back once it is about to expire, so that it may be heard of when its
dispatch was reported long ago, or when its slot works on something else.  What it then says is
compared with what the slot is taken by, and so it hits the dispatch that it was started for or
nothing at all.

* `Flagged`: the flag of a dispatch is raised just if the owner was told that the task took too
  long.
* `Timed`: timers, and what is heard of them, are about dispatches that were made, and so never
  about a task that waits.
* `step?_of_stale`: a timer that comes too late is heard and forgotten.
* `run?_cancels`: all of it together.

The flag is what a transform looks at to find out whether it is still wanted.  It belongs to a
dispatch and not to a slot, so that a late timer cannot cancel the slot's next task.  A flag that
is raised stays so; what a transform makes of it is its own matter, and its report is dropped in
any case.

* `belated`: a run in which a timer is stopped too late, and is heard of when its slot works on the
  next task.
-/

namespace Decipher

namespace Pool

variable {p q : Pool} {move : PoolMove}

/-! ## Flags -/

/-- **Flags go with answers.**  A dispatch has the number of its task's ticket, so that a flag and
an answer can be compared by their numbers. -/
structure Flagged (p : Pool) : Prop where
  told : ∀ dispatch, dispatch ∈ p.raised ↔
    ∃ milliseconds, (dispatch, .error (.timeout milliseconds)) ∈ p.answers
  made : ∀ dispatch ∈ p.raised, dispatch < p.assignments.length

theorem start_flagged {concurrency timeout : Nat} {starts : Nat → Bool}
    (h : start concurrency timeout starts = .ok p) : p.Flagged := by
  obtain ⟨-, rfl⟩ := start_eq_ok h
  exact ⟨by simp, by simp⟩

/-- Answers of another kind raise no flag, and need none. -/
theorem Flagged.of_append (flagged : p.Flagged) {more : List (Nat × Answer)} (log : Log p q)
    (raised : q.raised = p.raised) (answers : q.answers = p.answers ++ more)
    (other : ∀ entry ∈ more, ∀ milliseconds, entry.2 ≠ .error (.timeout milliseconds)) :
    q.Flagged := by
  refine ⟨fun dispatch => ?_, fun dispatch member => ?_⟩
  · rw [raised, answers, flagged.told dispatch]
    constructor
    · rintro ⟨milliseconds, member⟩
      exact ⟨milliseconds, List.mem_append_left _ member⟩
    · rintro ⟨milliseconds, member⟩
      rcases List.mem_append.mp member with before | now
      · exact ⟨milliseconds, before⟩
      · exact absurd rfl (other _ now milliseconds)
  · rw [raised] at member
    exact Nat.lt_of_lt_of_le (flagged.made dispatch member) log.assignments.length_le

/-- An assignment raises no flag.  If the task is refused its owner is told, but not that it took
too long. -/
theorem Assigns.flagged {slot : Nat} (assigns : Assigns p slot q) (flagged : p.Flagged) :
    q.Flagged := by
  have log := assigns.log
  cases assigns with
  | hand s generation calls task rest active waiting found idle =>
      exact flagged.of_append log rfl (List.append_nil _).symm (List.forall_mem_nil _)
  | refuse s task rest active waiting found idle unstaffed fails =>
      refine flagged.of_append log rfl rfl (List.forall_mem_singleton.mpr fun milliseconds => ?_)
      simp

/-- Only a timer that is heard of in time raises a flag, and in the same change the owner is told.
-/
theorem Change.flagged (change : Change p q) (sound : p.Sound) (flagged : p.Flagged) :
    q.Flagged := by
  have log := change.log
  cases change with
  | reject payload owned gone =>
      refine flagged.of_append log rfl rfl (List.forall_mem_singleton.mpr fun milliseconds => ?_)
      simp
  | assign slot assigns => exact assigns.flagged flagged
  | report slot s dispatch task report rest active told found busy =>
      refine flagged.of_append log rfl rfl (List.forall_mem_singleton.mpr fun milliseconds => ?_)
      cases report <;> simp [Report.answer, Except.mapError]
  | stop active =>
      refine flagged.of_append log rfl rfl (List.forall_mem_map.mpr fun task member => ?_)
      simp
  | overrun slot s dispatch task rest active told found busy =>
      -- The slot's dispatch is that of the task, and so the flag and the answer have one number.
      have noted := (sound.assigned slot s found).busy dispatch task busy
      have same : task.ticket = dispatch := (sound.inLine.assignment noted).1
      refine ⟨fun other => ?_, fun other member => ?_⟩
      · simp only [List.mem_append, List.mem_singleton, Prod.mk.injEq, Except.error.injEq,
          PoolError.timeout.injEq, exists_or, flagged.told other, same]
        simp
      · rcases List.mem_append.mp member with before | now
        · exact flagged.made other before
        · rw [List.mem_singleton.mp now]
          exact (List.getElem?_eq_some_iff.mp noted).1
  | _ => exact flagged.of_append log rfl (List.append_nil _).symm (List.forall_mem_nil _)

/-- In every run flags go with answers. -/
theorem run?_flagged {concurrency timeout : Nat} {starts : Nat → Bool} {moves : List PoolMove}
    (hstart : start concurrency timeout starts = .ok p) (h : p.run? moves = some q) :
    q.Flagged :=
  run?_sound_induction hstart h (start_flagged hstart) Change.flagged

/-- That the owner of a task was told that it took too long.  It is the first answer that counts,
and there is never a second. -/
def TimedOut (p : Pool) (ticket : Nat) : Prop :=
  ∃ milliseconds, p.answer? ticket = some (.error (.timeout milliseconds))

/-- A flag is raised just if the owner of the task was told that it took too long. -/
theorem Flagged.isRaised_iff (flagged : p.Flagged) (accounted : p.Accounted) {dispatch : Nat} :
    p.isRaised dispatch = true ↔ p.TimedOut dispatch := by
  simp only [isRaised, List.contains_iff_mem, flagged.told dispatch, TimedOut,
    accounted.answer?_eq_some_iff]

@[simp] theorem settle_raised (p : Pool) : p.settle.raised = p.raised := by
  have assigned (p : Pool) (slot : Nat) (task : Task) : (p.assign slot task).raised = p.raised := by
    simp only [assign, staff]
    repeat' split
    all_goals rfl
  have same := assignAll_same raised (fun _ _ => rfl) assigned p p.queue
  simp only [settle]
  split <;> exact same

/-- **A flag is raised when a timer is heard of and its dispatch is the one that the slot works
on**, and at no other time. -/
theorem step?_raised (h : p.step? move = some q) :
    q.raised = p.raised ∨
      (move = .attend ∧ ∃ slot dispatch task rest, p.events = .timedOut slot dispatch :: rest ∧
        p.state? slot = some (.busy dispatch task) ∧ q.raised = p.raised ++ [dispatch]) := by
  cases step?_step h with
  | receive | close => exact Or.inl (settle_raised _)
  | attend event rest active told =>
      rw [settle_raised]
      cases event with
      | completed slot dispatch report =>
          refine Or.inl ?_
          simp only [attend]
          repeat' split
          all_goals rfl
      | timedOut slot dispatch =>
          -- An event that is heard of in time raises the flag; any other is stale and changes
          -- nothing.
          by_cases busy : ∃ task, p.state? slot = some (.busy dispatch task)
          · obtain ⟨task, busy⟩ := busy
            have busy' : { p with events := rest }.state? slot = some (.busy dispatch task) := busy
            refine Or.inr ⟨rfl, slot, dispatch, task, rest, told, busy, ?_⟩
            simp only [attend, busy', if_true]
            rfl
          · refine Or.inl ?_
            have stale : { p with events := rest }.Stale (.timedOut slot dispatch) := by
              intro s found task works
              exact busy ⟨task, by rw [state?, found, Option.map_some, works]⟩
            rw [attend_of_stale stale]
  | submit payload owned =>
      refine Or.inl ?_
      unfold submit
      dsimp only
      split <;> rfl
  | _ => exact Or.inl rfl

/-! ## Timers -/

/-- A timer that has not been attended to: it has not expired, or was stopped, or what it had to
say waits. -/
inductive Unattended (p : Pool) (timer : Timer) : Prop
  | armed (runs : timer ∈ p.timers)
  | halted (stopped : timer ∈ p.halted)
  | expired (told : .timedOut timer.slot timer.dispatch ∈ p.events)

/-- **A timer is about a dispatch of its slot.**  So it can tell the dispatcher whether it is still
about what the slot does. -/
def Timed (p : Pool) : Prop :=
  ∀ timer, p.Unattended timer → ∃ task, p.assignments[timer.dispatch]? = some ⟨timer.slot, task⟩

theorem start_timed {concurrency timeout : Nat} {starts : Nat → Bool}
    (h : start concurrency timeout starts = .ok p) : p.Timed := by
  obtain ⟨-, rfl⟩ := start_eq_ok h
  rintro timer (runs | stopped | told) <;> simp at *

section Unattended

variable {timer : Timer} {slot : Nat}

/-- A timer was unattended before if nothing was added to the lists of timers but what was stopped,
and no event to those that wait. -/
theorem Unattended.of_lists (unattended : q.Unattended timer)
    (armed : timer ∈ q.timers → timer ∈ p.timers)
    (halted : timer ∈ q.halted → timer ∈ p.timers ∨ timer ∈ p.halted)
    (expired : .timedOut timer.slot timer.dispatch ∈ q.events →
      .timedOut timer.slot timer.dispatch ∈ p.events) : p.Unattended timer := by
  cases unattended with
  | armed runs => exact .armed (armed runs)
  | halted stopped => exact (halted stopped).elim .armed .halted
  | expired told => exact .expired (expired told)

/-- Taking an event off those that wait makes no timer unattended. -/
theorem Unattended.of_told {event : PoolEvent} {rest : List PoolEvent}
    (told : p.events = event :: rest) (unattended : { p with events := rest }.Unattended timer) :
    p.Unattended timer :=
  unattended.of_lists id .inr fun waits => told ▸ List.mem_cons_of_mem _ waits

/-- A timer that is stopped only moves from one list to the other. -/
theorem Unattended.of_stopTimer {other : Timer}
    (unattended : (p.stopTimer other).Unattended timer) : p.Unattended timer := by
  refine unattended.of_lists List.mem_of_mem_filter (fun stopped => ?_) id
  rcases List.mem_append.mp stopped with before | now
  · exact Or.inr before
  · exact Or.inl (List.mem_of_mem_filter now)

/-- What a timer has to say when it expires is news of a timer that was on one of the lists. -/
theorem Unattended.of_expire {other : Timer} (armed : other ∈ p.timers ∨ other ∈ p.halted)
    (unattended : Unattended
      { p with
        timers := p.timers.filter (· ≠ other)
        halted := p.halted.filter (· ≠ other)
        events := p.events ++ [.timedOut other.slot other.dispatch] } timer) :
    p.Unattended timer := by
  cases unattended with
  | armed runs => exact .armed (List.mem_of_mem_filter runs)
  | halted stopped => exact .halted (List.mem_of_mem_filter stopped)
  | expired told =>
      rcases List.mem_append.mp told with before | now
      · exact .expired before
      · obtain rfl : timer = other := by
          cases timer
          cases other
          simpa using now
        exact armed.elim .armed .halted

/-- An assignment starts one timer at most, the one of the dispatch that it makes. -/
theorem Assigns.unattended (assigns : Assigns p slot q) (unattended : q.Unattended timer) :
    p.Unattended timer ∨ ∃ task, q.assignments = p.assignments ++ [⟨timer.slot, task⟩] ∧
      timer.dispatch = p.assignments.length := by
  cases assigns with
  | refuse => exact Or.inl (unattended.of_lists id .inr id)
  | hand s generation calls task rest active waiting found idle =>
      by_cases new : timer = ⟨slot, p.assignments.length⟩
      · subst new
        exact Or.inr ⟨task, rfl, rfl⟩
      · refine Or.inl (unattended.of_lists (fun runs => ?_) .inr id)
        rcases List.mem_append.mp runs with before | now
        · exact before
        · exact absurd (List.mem_singleton.mp now) new

/-- A timer is started when a task is handed to a slot, and at no other time.  Stopping it, or its
expiring, only takes it from one list to another. -/
theorem Change.unattended (change : Change p q) (unattended : q.Unattended timer) :
    p.Unattended timer ∨ ∃ task, q.assignments = p.assignments ++ [⟨timer.slot, task⟩] ∧
      timer.dispatch = p.assignments.length := by
  cases change with
  | assign slot assigns => exact assigns.unattended unattended
  | report slot s dispatch task report rest active told found busy =>
      have stopped : (p.stopTimer ⟨slot, dispatch⟩).Unattended timer :=
        Unattended.of_told told (unattended.of_lists id .inr id)
      exact Or.inl stopped.of_stopTimer
  | release slot s dispatch report rest active told found draining =>
      exact Or.inl (.of_told told (unattended.of_lists id .inr id))
  | overrun slot s dispatch task rest active told found busy =>
      exact Or.inl (.of_told told (unattended.of_lists id .inr id))
  | ignore event rest active told stale => exact Or.inl (.of_told told unattended)
  | finish slot s job report found runs =>
      exact Or.inl (unattended.of_lists id .inr fun waits => by simpa using waits)
  | expire other expires => exact Or.inl (.of_expire expires unattended)
  | stop active => exact Or.inl (unattended.of_lists nofun nofun id)
  | _ => exact Or.inl (unattended.of_lists id .inr id)

end Unattended

/-- A timer is started with the dispatch that it is for, and its name does not change after that. -/
theorem Change.timed (change : Change p q) (timed : p.Timed) : q.Timed := by
  intro timer unattended
  rcases change.unattended unattended with before | ⟨task, noted, last⟩
  · obtain ⟨task, found⟩ := timed timer before
    exact ⟨task, change.log.assignment found⟩
  · exact ⟨task, by rw [noted, last, List.getElem?_concat_length]⟩

theorem run?_timed {concurrency timeout : Nat} {starts : Nat → Bool} {moves : List PoolMove}
    (hstart : start concurrency timeout starts = .ok p) (h : p.run? moves = some q) : q.Timed :=
  run?_induction h (start_timed hstart) Change.timed

/-! ## Tasks that wait -/

/-- A task that waits was not dispatched. -/
theorem InLine.length_le (inLine : p.InLine) {task : Task}
    (waits : task ∈ p.queue ∨ task ∈ p.channel) : p.assignments.length ≤ task.ticket := by
  have member : task ∈ p.queue ++ p.channel := List.mem_append.mpr waits
  obtain ⟨place, found⟩ := List.getElem?_of_mem member
  have there : p.line[p.assignments.length + place]? = some task := by
    rw [line, List.append_assoc, List.getElem?_append_right (by simp), List.length_map,
      Nat.add_sub_cancel_left, found]
  have same := (inLine.getElem?_line there).1
  omega

/-- Who waits was not told anything. -/
theorem Accounted.silent (accounted : p.Accounted) {task : Task}
    (waits : task ∈ p.queue ∨ task ∈ p.channel) : p.answer? task.ticket = none := by
  have found : 0 < p.inQueue task.ticket + p.inChannel task.ticket := by
    rcases waits with queued | channelled
    · have counted : 0 < p.inQueue task.ticket :=
        List.countP_pos_iff.mpr ⟨task, queued, beq_self_eq_true _⟩
      omega
    · have counted : 0 < p.inChannel task.ticket :=
        List.countP_pos_iff.mpr ⟨task, channelled, beq_self_eq_true _⟩
      omega
  have total := accounted task.ticket
  rw [answer?_eq_none_iff]
  unfold places at total
  split at total <;> omega

/-- A task that waits is not told in the next move that it took too long.  Its ticket would have to
be the number of a dispatch that was made before. -/
theorem Sound.not_timedOut (sound : p.Sound) (flagged : p.Flagged) (flagged' : q.Flagged)
    (h : p.step? move = some q) {task : Task} (waits : task ∈ p.queue ∨ task ∈ p.channel) :
    ¬ q.TimedOut task.ticket := by
  intro late
  have raised : task.ticket ∈ q.raised :=
    List.contains_iff_mem.mp
      ((flagged'.isRaised_iff (step?_sound h sound).accounted).mpr late)
  have new := sound.inLine.length_le waits
  have old : task.ticket < p.assignments.length := by
    rcases step?_raised h with same | ⟨-, slot, dispatch, other, rest, -, busy, more⟩
    · exact flagged.made _ (same ▸ raised)
    · rw [more, List.mem_append, List.mem_singleton] at raised
      rcases raised with before | now
      · exact flagged.made _ before
      · obtain ⟨s, found, state⟩ := Option.map_eq_some_iff.mp busy
        have noted := (sound.assigned slot s found).busy dispatch other state
        rw [now]
        exact (List.getElem?_eq_some_iff.mp noted).1
  omega

/-! ## Timers that come too late -/

/-- A turn in which there is nothing to hand out and something left to do changes nothing.  So a
late timer does no harm: the turn that it causes finds everything as the last one left it. -/
theorem settle_eq_self (prompt : p.queue = [] ∨ ∀ s ∈ p.slots, s.state ≠ .idle)
    (unfinished : ¬ p.Finished) : p.settle = p := by
  -- The dispatcher is at the end of a turn already: a second one finds no task or no idle slot.
  have same : p.assignAll p.queue = p := by
    cases waiting : p.queue with
    | nil => simp [assignAll, ← waiting]
    | cons task rest =>
        have busy : p.idleSlot? = none := by
          rcases prompt with empty | busy
          · rw [waiting] at empty
            cases empty
          · refine List.findIdx?_eq_none_iff.mpr fun s member => ?_
            exact Bool.eq_false_iff.mpr fun idle => busy s member (SlotState.isIdle_iff.mp idle)
        simp [assignAll, busy, ← waiting]
  simp only [settle, same]
  refine if_neg fun done => ?_
  simp only [Bool.and_eq_true, Bool.not_eq_true', List.isEmpty_iff, allIdle_iff] at done
  exact unfinished ⟨done.1.1, done.1.2, done.2⟩

/-- **A timer that comes too late is heard and forgotten.**  The slot may be idle, drain, or be busy
with another task by then; nothing but the event is gone. -/
theorem step?_of_stale {slot dispatch : Nat} {rest : List PoolEvent} (prompt : p.Prompt)
    (watchful : p.Watchful) (active : p.phase = .active)
    (told : p.events = .timedOut slot dispatch :: rest)
    (late : ∀ task, p.state? slot ≠ some (.busy dispatch task)) :
    p.step? .attend = some { p with events := rest } := by
  have stale : { p with events := rest }.Stale (.timedOut slot dispatch) := by
    intro s found task busy
    exact late task (by rw [state?, found, Option.map_some, busy])
  have settled : { p with events := rest }.settle = { p with events := rest } :=
    settle_eq_self (prompt active) fun finished =>
      watchful active ⟨finished.deaf, finished.empty, finished.idle⟩
  rw [step?_attend active told, attend_of_stale stale, settled]

/-- A timer that is heard of in time raises its flag, and the owner is told.  The slot drains from
then on, whatever else is handed out in the same turn. -/
theorem step?_of_timely {slot dispatch : Nat} {task : Task} {rest : List PoolEvent}
    (sound : p.Sound) (active : p.phase = .active)
    (told : p.events = .timedOut slot dispatch :: rest)
    (busy : p.state? slot = some (.busy dispatch task)) :
    ∃ q, p.step? .attend = some q ∧ q.raised = p.raised ++ [dispatch] ∧
      q.answer? task.ticket = some (.error (.timeout p.timeout)) ∧
      q.state? slot = some (.draining dispatch) := by
  obtain ⟨q, first, drains, -⟩ := step?_overrun active told busy
  have busy' : { p with events := rest }.state? slot = some (.busy dispatch task) := busy
  let late := { p with events := rest }.attend (.timedOut slot dispatch)
  have same : q = late.settle := Option.some.inj (first.symm.trans (step?_attend active told))
  have raised : late.raised = p.raised ++ [dispatch] := by
    simp only [late, attend, busy', if_true]
    rfl
  have answered : (task.ticket, .error (.timeout p.timeout)) ∈ late.answers := by
    simp [late, attend, busy', tell]
  have log : Log late late.settle :=
    changes_log (settle_changes ((attend_phase _ _).trans active))
  refine ⟨q, first, by rw [same, settle_raised, raised], ?_, drains⟩
  rw [(step?_sound first sound).accounted.answer?_eq_some_iff, same]
  exact log.answers.subset answered

/-- **How timers cancel.**  A flag is what a transform looks at, so that the question is whose flags
are raised, and when. -/
structure Cancels (p : Pool) : Prop where
  /-- The flag of a dispatch is raised just if the owner of its task was told that the task took
  too long. -/
  flag : ∀ dispatch a, p.assignments[dispatch]? = some a →
    (p.isRaised dispatch = true ↔ p.TimedOut a.task.ticket)
  /-- What was not dispatched has no flag that is raised, and no owner who was told so. -/
  dispatched : ∀ number, p.isRaised number = true ∨ p.TimedOut number →
    number < p.assignments.length
  /-- A task that waits has no answer, and whatever happens next is not told that it took too
  long.  All timers are about other tasks. -/
  waiting : ∀ task, task ∈ p.queue ∨ task ∈ p.channel →
    p.answer? task.ticket = none ∧
      (∀ move q, p.step? move = some q → ¬ q.TimedOut task.ticket) ∧
      ∀ timer, p.Unattended timer → ∃ other,
        p.assignments[timer.dispatch]? = some ⟨timer.slot, other⟩ ∧ other.ticket ≠ task.ticket
  /-- A flag is raised when a timer is heard of in time, and at no other time. -/
  raises : ∀ move q, p.step? move = some q → q.raised = p.raised ∨
    (move = .attend ∧ ∃ slot dispatch task rest, p.events = .timedOut slot dispatch :: rest ∧
      p.state? slot = some (.busy dispatch task) ∧ q.raised = p.raised ++ [dispatch])
  /-- A timer is heard of in time when its dispatch is the one that its slot works on. -/
  timely : ∀ slot dispatch task rest, p.phase = .active →
    p.events = .timedOut slot dispatch :: rest → p.state? slot = some (.busy dispatch task) →
    ∃ q, p.step? .attend = some q ∧ q.raised = p.raised ++ [dispatch] ∧
      q.answer? task.ticket = some (.error (.timeout p.timeout)) ∧
      q.state? slot = some (.draining dispatch)
  /-- Otherwise nothing comes of it: no slot changes, no flag is raised, and nobody is told
  anything. -/
  stale : ∀ slot dispatch rest, p.phase = .active → p.events = .timedOut slot dispatch :: rest →
    (∀ task, p.state? slot ≠ some (.busy dispatch task)) →
    p.step? .attend = some { p with events := rest }

/-- **A timer hits the dispatch that it was started for, or nothing at all**, whatever the order
in which things happen. -/
theorem run?_cancels {concurrency timeout : Nat} {starts : Nat → Bool} {moves : List PoolMove}
    (hstart : start concurrency timeout starts = .ok p) (h : p.run? moves = some q) :
    Cancels q := by
  have sound := run?_sound hstart h
  have flagged := run?_flagged hstart h
  have timed := run?_timed hstart h
  refine
    { flag := fun dispatch a noted => ?_
      dispatched := fun number either => ?_
      waiting := fun task waits => ⟨sound.accounted.silent waits, fun move r first late => ?_,
        fun timer unattended => ?_⟩
      raises := fun move r first => step?_raised first
      timely := fun slot dispatch task rest active told busy =>
        step?_of_timely sound active told busy
      stale := fun slot dispatch rest active told late =>
        step?_of_stale (run?_prompt hstart h) (run?_watchful hstart h) active told late }
  · rw [(sound.inLine.assignment noted).1]
    exact flagged.isRaised_iff sound.accounted
  · have raised : q.isRaised number = true :=
      either.elim id (flagged.isRaised_iff sound.accounted).mpr
    exact flagged.made number (List.contains_iff_mem.mp raised)
  · have whole : p.run? (moves ++ [move]) = some r := by
      rw [run?_append, h, Option.bind_some, run?, first]
      rfl
    exact sound.not_timedOut flagged (run?_flagged hstart whole) first waits late
  · obtain ⟨other, noted⟩ := timed timer unattended
    refine ⟨other, noted, fun same => ?_⟩
    have made := (List.getElem?_eq_some_iff.mp noted).1
    have number := (sound.inLine.assignment noted).1
    have new := sound.inLine.length_le waits
    omega

/-- A run in which a timer is stopped too late: its task was done in time, and the slot works on
the next one when the timer is heard of. -/
def belated : List PoolMove :=
  [.submit "first", .submit "second", .receive, .receive, .begin 0, .finish 0 (.ok "in time"),
    .attend, .expire ⟨0, 0⟩]

/-- The second task is not hit by the timer of the first. -/
theorem belated_cancels :
    ∃ p q, start 1 30 = .ok p ∧ p.run? belated = some q ∧ Cancels q ∧
      q.events = [.timedOut 0 0] ∧ q.state? 0 = some (.busy 1 ⟨1, "second"⟩) ∧
      q.step? .attend = some { q with events := [] } := by
  have starts : start 1 30 = .ok solo := rfl
  have ends : ((solo.run? belated).map fun q => (q.phase, q.events, q.state? 0)) =
      some (.active, [.timedOut 0 0], some (.busy 1 ⟨1, "second"⟩)) := rfl
  obtain ⟨q, run, same⟩ := Option.map_eq_some_iff.mp ends
  simp only [Prod.mk.injEq] at same
  obtain ⟨active, told, busy⟩ := same
  have cancels := run?_cancels starts run
  refine ⟨solo, q, starts, run, cancels, told, busy, cancels.stale 0 0 [] active told ?_⟩
  intro task works
  rw [busy] at works
  cases works

end Pool

end Decipher
