import Decipher.Pool.Rehearsal
import Decipher.Proofs.Pool.Departure
import Decipher.Proofs.Pool.Service

/-!
# Rehearsals are runs

A rehearsal decides what a run of a pool leaves open: which move is the next one, when time
passes, and what a transform comes to.  It takes no liberties beyond that.

* `Scene`: a single step of a rehearsal.  Either the pool makes a move, and a worker that finishes
  in it reports what the script of its payload says, or something happens that the pool does not
  notice.  Whatever a rehearsal does consists of scenes (`unfolds_follow`, `unfolds_followAll`,
  `unfolds_conclude`).
* `Proper`: what every scene keeps.  The pool has made a run, so that all that is said about runs
  holds of it, and the books agree with it.
* `settle_rests`: when a rehearsal settles, it does not stop while something can still happen at
  once.  The bound on the moves of `settle` is no cut: a move that is made at once uses up
  backlog, and there is never more of that than the submissions account for.
* `awaitResult_exhausted`: in the same way it gives up waiting only when nothing can happen at once
  and no timer is left, so that what was waited for never comes.
* `followAll_proper`: from the start on a rehearsal is proper, and what an owner is told in it is
  what the pool answered.

A script says what a transform comes to in its surroundings: it may wait for a name to be released,
for others to come, or for its flag.  A report that depends on these is still a report of the
payload, and `Behaviour.MayReport` leaves open which of the surroundings it was.
-/

namespace Decipher

open Relation

/-- **What a worker can report on a payload**: what the script that the payload is says, in some
surroundings. -/
def Behaviour.MayReport (payload : String) (report : Report) : Prop :=
  ∃ surroundings verdict,
    (ofPayload payload).verdict? surroundings = some verdict ∧ report = verdict.report

/-- The moves that nobody has to come for from outside: those of the dispatcher and the workers. -/
def PoolMove.IsOwn : PoolMove → Prop
  | .receive | .attend | .begin _ | .finish _ _ => True
  | _ => False

namespace Pool

variable {p q : Pool} {move : PoolMove}

/-! ## Moves that are made at once -/

/-- What costs no alarm and is no submission is work. -/
theorem Spends.less (spends : Spends p q) (same : q.payloads = p.payloads)
    (alarms : p.alarms ≤ q.alarms) : q.backlog < p.backlog := by
  cases spends with
  | works less alarms' same' => exact less
  | expires kept fewer same' => exact absurd fewer (by omega)
  | submits payload backlog alarms' more =>
      rw [same, List.self_eq_append_right] at more
      cases more

/-- Handing out work at the end of a turn adds nothing to what there is to do. -/
theorem settle_le (active : p.phase = .active) :
    p.settle.backlog ≤ p.backlog ∧ p.settle.alarms ≤ p.alarms := by
  have handed {q : Pool} (outs : ReflTransGen HandOut p q) :
      q.backlog ≤ p.backlog ∧ q.alarms ≤ p.alarms := by
    induction outs with
    | refl => exact ⟨Nat.le_refl _, Nat.le_refl _⟩
    | tail _ last ih =>
        obtain ⟨slot, assigns, -⟩ := last
        have less := assigns.less
        omega
  have assigned := handed (assignAll_handOuts p.queue active rfl)
  have still : (p.assignAll p.queue).phase = .active := by rw [assignAll_phase, active]
  simp only [settle]
  split
  · refine ⟨Nat.le_trans ?_ assigned.1, assigned.2⟩
    simp [backlog]
  · exact assigned

/-- Attending to an event stops a timer at most, and one that is stopped may still expire. -/
theorem attend_alarms (p : Pool) (event : PoolEvent) : (p.attend event).alarms = p.alarms := by
  refine attend_same alarms (fun _ _ _ => rfl) (fun p timer => ?_) (fun _ _ => rfl)
    (fun _ _ _ => rfl) p event
  have timers := length_filter_ne_add p.timers timer
  simp only [alarms, stopTimer, List.length_append]
  omega

/-- **What a pool does on its own uses up backlog**, and gives rise to no alarm.  What a turn takes
in uses up some, and what it hands out after that adds nothing. -/
theorem step?_less (h : p.step? move = some q) (own : move.IsOwn) :
    q.backlog < p.backlog ∧ q.alarms ≤ p.alarms := by
  cases step?_step h with
  | submit | leave | expire | stop => exact own.elim
  | receive task rest active waiting =>
      have taken := Change.receive task rest active waiting
      have alarms : p.alarms = alarms { p with channel := rest, queue := p.queue ++ [task] } := by
        simp only [Pool.alarms, waiting, List.length_cons, List.length_append, List.length_nil]
        omega
      have less := taken.spends.less rfl (Nat.le_of_eq alarms)
      have given := settle_le (p := { p with channel := rest, queue := p.queue ++ [task] }) active
      exact ⟨Nat.lt_of_le_of_lt given.1 less, Nat.le_trans given.2 (Nat.le_of_eq alarms.symm)⟩
  | close active waiting listening owned =>
      have taken := Change.close active waiting listening owned
      have less := taken.spends.less rfl (Nat.le_refl _)
      have given := settle_le (p := { p with listening := false }) active
      exact ⟨Nat.lt_of_le_of_lt given.1 less, given.2⟩
  | attend event rest active told =>
      have taken := attend_change active told
      have alarms := attend_alarms { p with events := rest } event
      have less := taken.spends.less (attend_payloads _ event) (Nat.le_of_eq alarms.symm)
      have given := settle_le (p := { p with events := rest }.attend event)
        (by rw [attend_phase, active])
      exact ⟨Nat.lt_of_le_of_lt given.1 less, Nat.le_trans given.2 (Nat.le_of_eq alarms)⟩
  | begin slot s job rest found staffed free waiting =>
      have begun := Change.begin slot s job rest found staffed free waiting
      exact ⟨begun.spends.less rfl (Nat.le_refl _), Nat.le_refl _⟩
  | finish slot s job report found runs =>
      have finished := Change.finish slot s job report found runs
      exact ⟨finished.spends.less rfl (Nat.le_refl _), Nat.le_refl _⟩

/-- When a timer expires there is one alarm less. -/
theorem step?_expire_less {timer : Timer} (h : p.step? (.expire timer) = some q) :
    q.alarms < p.alarms := by
  cases step?_step h with
  | expire _ armed =>
      have fewer := length_expired_lt armed
      simp only [alarms]
      omega

/-- Reports come from workers that finish. -/
theorem step?_reports (h : p.step? move = some q) :
    q.reports = p.reports ∨
      ∃ slot s job report, move = .finish slot report ∧ p.slots[slot]? = some s ∧
        s.running = some job ∧ q.reports = p.reports ++ [(job, report)] := by
  cases step?_step h with
  | submit payload owned =>
      refine Or.inl ?_
      unfold submit
      dsimp only
      split <;> rfl
  | finish slot s job report found runs =>
      exact Or.inr ⟨slot, s, job, report, rfl, found, runs, rfl⟩
  | attend event rest active told =>
      exact Or.inl (by rw [settle_reports, attend_reports])
  | receive | close => exact Or.inl (settle_reports _)
  | _ => exact Or.inl rfl

/-- An answer that was given stays the answer. -/
theorem Log.answer? (log : Log p q) {ticket : Nat} {a : Answer}
    (told : p.answer? ticket = some a) : q.answer? ticket = some a := by
  obtain ⟨more, same⟩ := log.answers
  rw [Pool.answer?, ← same, List.lookup_append, ← Pool.answer?, told]
  rfl

end Pool

namespace Rehearsal

variable {r r' : Rehearsal} {p : Pool} {move : PoolMove}

/-! ## Scenes -/

/-- That a worker that finishes in a move reports what the script of its payload says. -/
def Scripted (r : Rehearsal) : PoolMove → Prop
  | .finish slot report =>
    ∃ s job verdict, r.pool.slots[slot]? = some s ∧ s.running = some job ∧
      (Behaviour.ofPayload job.payload).verdict? (r.surroundings slot s job) = some verdict ∧
      report = verdict.report
  | _ => True

/-- **A single scene of a rehearsal.**  Names that are released, handles and the clock are no
business of the pool. -/
inductive Scene (r : Rehearsal) : Rehearsal → Prop
  | move (move : PoolMove) (scripted : r.Scripted move) : Scene r (r.make move)
  | aside (released : List String) (handles : List (Option Nat)) (clock : Nat) :
    Scene r { r with released, handles, clock }

/-- That one state of a rehearsal comes of another in scenes. -/
abbrev Unfolds : Rehearsal → Rehearsal → Prop := ReflTransGen Scene

theorem make_of_step {q : Pool} (h : r.pool.step? move = some q) : (r.make move).pool = q := by
  simp only [make, h]

theorem make_of_none (h : r.pool.step? move = none) : r.make move = r := by
  simp only [make, h]

theorem unfolds_make (r : Rehearsal) (move : PoolMove) (scripted : r.Scripted move) :
    Unfolds r (r.make move) :=
  ReflTransGen.single (Scene.move move scripted)

/-! ## What happens at once -/

/-- Workers are asked in the order of their slots, and the first that can move does. -/
theorem anyWorkerMove?_eq_some {slots : List Slot} {index : Nat}
    (h : r.anyWorkerMove? index slots = some move) :
    ∃ i s, slots[i]? = some s ∧ r.workerMove? (index + i) s = some move := by
  induction slots generalizing index with
  | nil => cases h
  | cons slot rest ih =>
      unfold anyWorkerMove? at h
      split at h
      · rename_i first
        cases h
        exact ⟨0, slot, rfl, first⟩
      · obtain ⟨i, s, found, moves⟩ := ih h
        refine ⟨i + 1, s, found, ?_⟩
        rw [← moves]
        congr 1
        omega

/-- If no worker is found that can move, none can, wherever its slot is. -/
theorem anyWorkerMove?_eq_none {slots : List Slot} {index : Nat}
    (h : r.anyWorkerMove? index slots = none) {i : Nat} {s : Slot} (found : slots[i]? = some s) :
    r.workerMove? (index + i) s = none := by
  induction slots generalizing index i with
  | nil => cases found
  | cons slot rest ih =>
      unfold anyWorkerMove? at h
      split at h
      · cases h
      · rename_i first
        cases i with
        | zero =>
            cases found
            exact first
        | succ i =>
            have later := ih h found
            rwa [Nat.add_right_comm] at later

/-- What happens next: the dispatcher's move if there is one, and else a worker's. -/
inductive Upcoming (r : Rehearsal) : PoolMove → Prop
  | attend (possible : (r.pool.step? .attend).isSome) : Upcoming r .attend
  | receive (possible : (r.pool.step? .receive).isSome) : Upcoming r .receive
  | begin (slot : Nat) (s : Slot) (found : r.pool.slots[slot]? = some s)
      (free : s.running = none) (waiting : s.mailbox ≠ []) : Upcoming r (.begin slot)
  | finish (slot : Nat) (s : Slot) (job : Job) (verdict : Verdict)
      (found : r.pool.slots[slot]? = some s) (runs : s.running = some job)
      (tells : (Behaviour.ofPayload job.payload).verdict? (r.surroundings slot s job) =
        some verdict) : Upcoming r (.finish slot verdict.report)

/-- The move that is chosen is one of those that can be made at once. -/
theorem nextMove?_upcoming (h : r.nextMove? = some move) : Upcoming r move := by
  unfold nextMove? at h
  split at h
  · rename_i possible
    cases h
    exact .attend possible
  split at h
  · rename_i possible
    cases h
    exact .receive possible
  obtain ⟨slot, s, found, moves⟩ := anyWorkerMove?_eq_some h
  rw [Nat.zero_add] at moves
  unfold workerMove? at moves
  split at moves
  · rename_i job runs
    obtain ⟨verdict, tells, rfl⟩ := Option.map_eq_some_iff.mp moves
    exact .finish slot s job verdict found runs tells
  · rename_i free
    split at moves
    · cases moves
    · rename_i waiting
      cases moves
      exact .begin slot s found free (by simpa using waiting)

/-- **When a rehearsal comes to rest**, the dispatcher can neither receive nor attend, and every
worker has nothing to do or waits for something. -/
theorem nextMove?_eq_none (h : r.nextMove? = none) :
    r.pool.step? .attend = none ∧ r.pool.step? .receive = none ∧
      ∀ slot s, r.pool.slots[slot]? = some s → r.workerMove? slot s = none := by
  unfold nextMove? at h
  split at h
  · cases h
  rename_i attend
  split at h
  · cases h
  rename_i receive
  refine ⟨by simpa using attend, by simpa using receive, fun slot s found => ?_⟩
  simpa using anyWorkerMove?_eq_none h found

/-- A worker that finishes next reports what its script says, since this is how the move was found.
-/
theorem Upcoming.scripted (upcoming : Upcoming r move) : r.Scripted move := by
  cases upcoming with
  | finish _ s job verdict found runs tells => exact ⟨s, job, verdict, found, runs, tells, rfl⟩
  | _ => trivial

/-- What happens next can happen, and uses up backlog.  That a worker with a job in its mailbox can
begin it takes the soundness of the pool, by which there is a worker. -/
theorem Upcoming.less (upcoming : Upcoming r move) (sound : r.pool.Sound) :
    ∃ q, r.pool.step? move = some q ∧ q.backlog < r.pool.backlog ∧
      q.alarms ≤ r.pool.alarms := by
  have possible : ∃ q, r.pool.step? move = some q := by
    cases upcoming with
    | attend possible => exact Option.isSome_iff_exists.mp possible
    | receive possible => exact Option.isSome_iff_exists.mp possible
    | begin slot s found free waiting =>
        obtain ⟨job, rest, waiting⟩ := List.exists_cons_of_ne_nil waiting
        cases staffed : s.staffed with
        | true => exact ⟨_, by simp [Pool.step?, found, Slot.begin?, staffed, free, waiting]; rfl⟩
        | false =>
            -- A slot without a worker is idle, and then its mailbox is empty.
            have idle := (sound.assigned slot s found).staffed staffed
            rw [(sound.engaged.idle found idle).2.1] at waiting
            cases waiting
    | finish slot s job verdict found runs tells =>
        exact ⟨_, by simp [Pool.step?, found, Slot.finish?, runs]; rfl⟩
  obtain ⟨q, step⟩ := possible
  have own : move.IsOwn := by cases upcoming <;> trivial
  exact ⟨q, step, Pool.step?_less step own⟩

/-- Settling is made of scenes.  By induction on the bound, whatever it is: that it is large enough
is a matter of `settle_rests`. -/
theorem unfolds_settleWithin (fuel : Nat) (r : Rehearsal) : Unfolds r (settleWithin fuel r) := by
  induction fuel generalizing r with
  | zero => exact ReflTransGen.refl
  | succ fuel ih =>
      unfold settleWithin
      split
      · exact ReflTransGen.refl
      · rename_i move next
        exact ReflTransGen.head (Scene.move move (nextMove?_upcoming next).scripted) (ih _)

theorem unfolds_settle (r : Rehearsal) : Unfolds r r.settle := unfolds_settleWithin _ r

/-! ## Waiting -/

/-- Lets timers expire, one after another. -/
def expireAll (r : Rehearsal) (timers : List Timer) : Rehearsal :=
  timers.foldl (fun r timer => r.make (.expire timer)) r

/-- When time passes first the timers expire that are due, and only then the clock goes on. -/
def afterDue (r : Rehearsal) : Rehearsal :=
  { r.expireAll r.dueTimers with clock := (r.expireAll r.dueTimers).clock + 1 }

theorem passTime_eq (r : Rehearsal) : r.passTime = r.afterDue.settle := rfl

theorem unfolds_expireAll (r : Rehearsal) (timers : List Timer) :
    Unfolds r (r.expireAll timers) := by
  induction timers generalizing r with
  | nil => exact ReflTransGen.refl
  | cons timer rest ih => exact (unfolds_make r (.expire timer) trivial).trans (ih _)

theorem unfolds_afterDue (r : Rehearsal) : Unfolds r r.afterDue :=
  (unfolds_expireAll r r.dueTimers).tail (Scene.aside _ _ _)

theorem unfolds_passTime (r : Rehearsal) : Unfolds r r.passTime := by
  rw [passTime_eq]
  exact (unfolds_afterDue r).trans (unfolds_settle _)

/-- Waiting is letting time pass, over and over. -/
theorem unfolds_awaitWithin {α : Type} (result? : Rehearsal → Option α) (fuel : Nat)
    (r : Rehearsal) : Unfolds r (awaitWithin result? fuel r).2 := by
  induction fuel generalizing r with
  | zero => exact ReflTransGen.refl
  | succ fuel ih =>
      unfold awaitWithin
      split
      · exact ReflTransGen.refl
      split
      · exact ReflTransGen.refl
      · exact (unfolds_passTime r).trans (ih _)

theorem unfolds_awaitResult {α : Type} (r : Rehearsal) (result? : Rehearsal → Option α) :
    Unfolds r (r.awaitResult result?).2 :=
  (unfolds_settle r).trans (unfolds_awaitWithin result? _ _)

/-- What waiting ends with is there in the end. -/
theorem awaitWithin_eq_some {α : Type} {result? : Rehearsal → Option α} {fuel : Nat}
    {r : Rehearsal} {x : α} (comes : (awaitWithin result? fuel r).1 = some x) :
    result? (awaitWithin result? fuel r).2 = some x := by
  induction fuel generalizing r with
  | zero => exact comes
  | succ fuel ih =>
      unfold awaitWithin at comes ⊢
      split at comes
      · rename_i there
        simpa only [there] using comes
      split at comes
      · cases comes
      · rename_i silent late
        simp only [late]
        exact ih comes

theorem unfolds_awaitAnswer (r : Rehearsal) (ticket : Nat) :
    Unfolds r (r.awaitAnswer ticket).2 := by
  have waited := unfolds_awaitResult r fun r => r.pool.answer? ticket
  unfold awaitAnswer
  split <;> simpa only [*] using waited

/-- What an owner is told is what the pool answered. -/
theorem awaitAnswer_eq_answer {ticket : Nat} {a : Answer}
    (told : (r.awaitAnswer ticket).1 = .answer a) :
    (r.awaitAnswer ticket).2.pool.answer? ticket = some a := by
  have comes := @awaitWithin_eq_some Answer (fun r => r.pool.answer? ticket)
    (r.pool.payloads.length + 1) r.settle a
  unfold awaitAnswer awaitResult at told ⊢
  split at told
  · rename_i b r' awaited
    cases told
    rw [awaited] at comes
    exact comes rfl
  · cases told

/-! ## Cues -/

/-- A submission is a scene, in which its handle is noted. -/
theorem unfolds_submit {payload : String} {ticket : Nat}
    (h : r.submit payload = some (ticket, r')) : Unfolds r r' := by
  unfold submit at h
  split at h
  · cases h
    exact (unfolds_make r (.submit payload) trivial).trans (unfolds_settle _)
  · cases h

theorem unfolds_wait (r : Rehearsal) (handle : Nat) : Unfolds r (r.wait handle).2 := by
  unfold wait
  split
  · exact (ReflTransGen.single (Scene.aside _ _ _)).trans (unfolds_awaitAnswer _ _)
  · exact ReflTransGen.refl

/-- **Whatever cue is followed**, all that happens is scenes: what the cue asks for, what happens at
once after it, and what happens while the owner waits. -/
theorem unfolds_follow (r : Rehearsal) (cue : Cue) : Unfolds r (r.follow cue).2 := by
  cases cue with
  | submit payload =>
      simp only [follow]
      split
      · rename_i ticket r' submitted
        exact (unfolds_submit submitted).tail (Scene.aside _ _ _)
      · exact ReflTransGen.refl
  | wait handle => exact unfolds_wait r handle
  | execute payload =>
      simp only [follow]
      split
      · rename_i ticket r' submitted
        exact (unfolds_submit submitted).trans (unfolds_awaitAnswer _ _)
      · exact ReflTransGen.refl
  | release name =>
      exact (ReflTransGen.single (Scene.aside _ _ _)).trans (unfolds_settle _)
  | awaitStarted payload =>
      have waited := unfolds_awaitResult r fun r => r.begun.find? fun job => job.payload == payload
      simp only [follow]
      split <;> simpa only [*] using waited
  | leave => exact (unfolds_make r .leave trivial).trans (unfolds_settle _)
  | shutDown => exact (unfolds_make r .stop trivial).trans (unfolds_settle _)

theorem unfolds_followAll (r : Rehearsal) (cues : List Cue) :
    Unfolds r (r.followAll cues).2 := by
  induction cues generalizing r with
  | nil => exact ReflTransGen.refl
  | cons cue rest ih => exact (unfolds_follow r cue).trans (ih _)

/-- At the end names are released and handles waited on, which are cues as well. -/
theorem unfolds_conclude (r : Rehearsal) : Unfolds r r.conclude.2 := by
  have released := unfolds_followAll r (finalNames.map .release)
  unfold conclude
  -- The cues are known, but what comes of them is not to be worked out.
  cases followed : r.followAll (finalNames.map .release) with
  | mk outcomes r' =>
      rw [followed] at released
      exact released.trans (unfolds_followAll r' _)

/-- An owner who waits is told what the pool answered. -/
theorem follow_eq_answer {cue : Cue} {a : Answer} (told : (r.follow cue).1 = .answer a) :
    ∃ ticket, (r.follow cue).2.pool.answer? ticket = some a := by
  cases cue with
  | wait handle =>
      simp only [follow, wait] at told ⊢
      split at told
      · rename_i ticket known
        exact ⟨ticket, awaitAnswer_eq_answer told⟩
      · cases told
  | execute payload =>
      simp only [follow] at told ⊢
      split at told
      · rename_i ticket r' submitted
        exact ⟨ticket, awaitAnswer_eq_answer told⟩
      · cases told
  | submit payload =>
      simp only [follow] at told
      split at told <;> cases told
  | awaitStarted payload =>
      simp only [follow] at told
      split at told <;> cases told
  | _ => simp [follow] at told

/-! ## What every scene keeps -/

/-- **A rehearsal as it should be**, of a pool that was `p` at the start. -/
structure Proper (p : Pool) (r : Rehearsal) : Prop where
  /-- What happened to the pool is a run. -/
  run : ∃ moves, p.run? moves = some r.pool
  /-- Workers reported nothing but what the scripts of their payloads say. -/
  scripted : ∀ entry ∈ r.pool.reports, Behaviour.MayReport entry.1.payload entry.2
  /-- For each dispatch it is known when it was made. -/
  dated : r.times.length = r.pool.assignments.length
  /-- The jobs that were begun are those of dispatches. -/
  begun : ∀ job ∈ r.begun, ∃ slot ticket,
    r.pool.assignments[job.dispatch]? = some ⟨slot, ⟨ticket, job.payload⟩⟩

/-- A proper rehearsal has a sound pool, as its pool has made a run. -/
theorem Proper.sound {concurrency timeout : Nat} {starts : Nat → Bool} (proper : Proper p r)
    (hstart : Pool.start concurrency timeout starts = .ok p) : r.pool.Sound := by
  obtain ⟨moves, h⟩ := proper.run
  exact Pool.run?_sound hstart h

/-- A move that can happen keeps a rehearsal proper.  The run is longer by the move, and the books
by what the move has added to the logs. -/
theorem Proper.make {concurrency timeout : Nat} {starts : Nat → Bool} (proper : Proper p r)
    (hstart : Pool.start concurrency timeout starts = .ok p) (scripted : r.Scripted move)
    {q : Pool} (step : r.pool.step? move = some q) : Proper p (r.make move) := by
  have sound := proper.sound hstart
  have log : Pool.Log r.pool q := Pool.changes_log (Pool.step?_changes step).to_reflTransGen
  simp only [Rehearsal.make, step]
  refine ⟨?_, fun entry member => ?_, ?_, fun job member => ?_⟩
  · obtain ⟨moves, h⟩ := proper.run
    exact ⟨moves ++ [move], by simp [Pool.run?_append, h, Pool.run?, step]⟩
  · rcases Pool.step?_reports step with same | ⟨slot, s, job, report, rfl, found, runs, more⟩
    · exact proper.scripted entry (same ▸ member)
    · rw [more, List.mem_append, List.mem_singleton] at member
      rcases member with before | rfl
      · exact proper.scripted entry before
      · -- The report is new, and the move that made it was scripted.
        obtain ⟨s', job', verdict, found', runs', tells, same⟩ := scripted
        obtain rfl := Option.some.inj (found.symm.trans found')
        obtain rfl := Option.some.inj (runs.symm.trans runs')
        exact ⟨_, verdict, tells, same⟩
  · have longer := log.assignments.length_le
    simp only [List.length_append, List.length_replicate, proper.dated]
    omega
  · rcases List.mem_append.mp member with before | now
    · obtain ⟨slot, ticket, noted⟩ := proper.begun job before
      exact ⟨slot, ticket, log.assignment noted⟩
    · split at now
      · -- What a worker begins was in its mailbox, and so it was assigned to its slot.
        rename_i slot
        simp only [Option.mem_toList, Option.bind_eq_some_iff] at now
        obtain ⟨s, found, first⟩ := now
        have there : job ∈ s.jobs := by
          simp [Slot.jobs, List.mem_of_mem_head? first]
        obtain ⟨ticket, noted⟩ := (sound.assigned slot s found).job job there
        exact ⟨slot, ticket, log.assignment noted⟩
      · cases now

/-- Every scene keeps a rehearsal proper. -/
theorem Scene.proper {concurrency timeout : Nat} {starts : Nat → Bool} (scene : Scene r r')
    (hstart : Pool.start concurrency timeout starts = .ok p) (proper : Proper p r) :
    Proper p r' := by
  cases scene with
  | move move scripted =>
      cases step : r.pool.step? move with
      | none =>
          rw [make_of_none step]
          exact proper
      | some q => exact proper.make hstart scripted step
  | aside released handles clock => exact ⟨proper.run, proper.scripted, proper.dated, proper.begun⟩

theorem Unfolds.proper {concurrency timeout : Nat} {starts : Nat → Bool} (unfolds : Unfolds r r')
    (hstart : Pool.start concurrency timeout starts = .ok p) (proper : Proper p r) :
    Proper p r' := by
  induction unfolds with
  | refl => exact proper
  | tail _ last ih => exact last.proper hstart ih

/-- Nothing that the pool noted is lost in a scene. -/
theorem Scene.log (scene : Scene r r') : Pool.Log r.pool r'.pool := by
  cases scene with
  | move move scripted =>
      cases step : r.pool.step? move with
      | none =>
          rw [make_of_none step]
          exact Pool.Log.refl _
      | some q =>
          rw [make_of_step step]
          exact Pool.changes_log (Pool.step?_changes step).to_reflTransGen
  | aside released handles clock => exact Pool.Log.refl _

theorem Unfolds.log (unfolds : Unfolds r r') : Pool.Log r.pool r'.pool := by
  induction unfolds with
  | refl => exact Pool.Log.refl _
  | tail _ last ih => exact ih.trans last.log

theorem start_proper {concurrency timeout : Nat} (h : start concurrency timeout = .ok r) :
    Pool.start concurrency timeout = .ok r.pool ∧ Proper r.pool r := by
  unfold start at h
  cases started : Pool.start concurrency timeout with
  | error e =>
      rw [started] at h
      cases h
  | ok p =>
      rw [started] at h
      cases h
      obtain ⟨-, rfl⟩ := Pool.start_eq_ok started
      exact ⟨rfl, ⟨[], rfl⟩, List.forall_mem_nil _, rfl, List.forall_mem_nil _⟩

/-! ## Rest -/

/-- A bound that the backlog does not exceed is as good as any.  By induction on the bound: each
move uses up some backlog, and the bound that is left is enough for the rest. -/
theorem settleWithin_rests {fuel : Nat} (sound : r.pool.Sound)
    (enough : r.pool.backlog ≤ fuel) :
    (settleWithin fuel r).nextMove? = none ∧
      (settleWithin fuel r).pool.alarms ≤ r.pool.alarms := by
  induction fuel generalizing r with
  | zero =>
      unfold settleWithin
      refine ⟨Option.eq_none_iff_forall_ne_some.mpr fun move next => ?_, Nat.le_refl _⟩
      -- With no backlog there is no move that could use any up.
      obtain ⟨q, -, less, -⟩ := (nextMove?_upcoming next).less sound
      omega
  | succ fuel ih =>
      unfold settleWithin
      split
      · rename_i rests
        exact ⟨rests, Nat.le_refl _⟩
      · rename_i move next
        obtain ⟨q, step, less, alarms⟩ := (nextMove?_upcoming next).less sound
        obtain rfl := make_of_step step
        obtain ⟨rests, alarms'⟩ := ih (Pool.step?_sound step sound) (by omega)
        exact ⟨rests, Nat.le_trans alarms' alarms⟩

/-- A timer that is not there any more does not expire. -/
theorem make_expire_alarms (r : Rehearsal) (timer : Timer) :
    (r.make (.expire timer)).pool.alarms ≤ r.pool.alarms := by
  cases step : r.pool.step? (.expire timer) with
  | none =>
      rw [make_of_none step]
  | some q =>
      rw [make_of_step step]
      exact Nat.le_of_lt (Pool.step?_expire_less step)

/-- Timers that expire add no alarms. -/
theorem expireAll_alarms (r : Rehearsal) (timers : List Timer) :
    (r.expireAll timers).pool.alarms ≤ r.pool.alarms := by
  induction timers generalizing r with
  | nil => exact Nat.le_refl _
  | cons timer rest ih => exact Nat.le_trans (ih _) (make_expire_alarms r timer)

theorem mem_timers_of_mem_dueTimers {timer : Timer} (due : timer ∈ r.dueTimers) :
    timer ∈ r.pool.timers := by
  unfold dueTimers at due
  split at due
  · cases due
  · exact List.mem_of_mem_filter due

/-- As long as there are timers the oldest of them is due. -/
theorem timers_eq_nil_of_dueTimers (none : r.dueTimers = []) : r.pool.timers = [] := by
  unfold dueTimers at none
  split at none
  · assumption
  · rename_i oldest rest armed
    have there := List.filter_eq_nil_iff.mp none oldest (by rw [armed]; exact List.mem_cons_self)
    simp at there

/-- The first timer that is due is there when it expires, and those after it cannot make up for
it. -/
theorem afterDue_alarms (due : r.dueTimers ≠ []) : r.afterDue.pool.alarms < r.pool.alarms := by
  obtain ⟨timer, rest, list⟩ := List.exists_cons_of_ne_nil due
  have armed : timer ∈ r.pool.timers :=
    mem_timers_of_mem_dueTimers (by rw [list]; exact List.mem_cons_self)
  have possible : (r.pool.step? (.expire timer)).isSome := by simp [Pool.step?, armed]
  obtain ⟨q, step⟩ := Option.isSome_iff_exists.mp possible
  have less := Pool.step?_expire_less step
  have others := expireAll_alarms (r.make (.expire timer)) rest
  rw [make_of_step step] at others
  rw [afterDue, list]
  exact Nat.lt_of_le_of_lt others less

section Rest

variable {concurrency timeout : Nat} {starts : Nat → Bool}
  (hstart : Pool.start concurrency timeout starts = .ok p)

include hstart

/-- **What can happen at once has happened when a rehearsal has settled**: the bound on the moves
is never what ends it. -/
theorem settle_rests (proper : Proper p r) :
    r.settle.nextMove? = none ∧ r.settle.pool.alarms ≤ r.pool.alarms := by
  obtain ⟨moves, h⟩ := proper.run
  have bound := (Pool.run?_backlog_le hstart h).1
  exact settleWithin_rests (proper.sound hstart) (by unfold moveBound; omega)

/-- Whenever time passes there are fewer alarms, for at least one timer expires. -/
theorem passTime_rests (proper : Proper p r) (due : r.dueTimers ≠ []) :
    r.passTime.nextMove? = none ∧ r.passTime.pool.alarms < r.pool.alarms := by
  have less := afterDue_alarms due
  obtain ⟨rests, alarms⟩ :=
    settle_rests hstart (Unfolds.proper (unfolds_afterDue r) hstart proper)
  rw [passTime_eq]
  exact ⟨rests, Nat.lt_of_le_of_lt alarms less⟩

/-- If waiting ends without a result, no timer is left.  Each time that time passes there is one
alarm less, so the bound on the rounds is no cut either. -/
theorem awaitWithin_exhausted {α : Type} {result? : Rehearsal → Option α} {fuel : Nat}
    (proper : Proper p r) (rests : r.nextMove? = none) (enough : r.pool.alarms ≤ fuel)
    (never : (awaitWithin result? fuel r).1 = none) :
    result? (awaitWithin result? fuel r).2 = none ∧
      (awaitWithin result? fuel r).2.nextMove? = none ∧
      (awaitWithin result? fuel r).2.pool.timers = [] := by
  induction fuel generalizing r with
  | zero =>
      -- There is no alarm left, and so no timer.
      have none : r.pool.timers.length = 0 := by
        simp only [Pool.alarms] at enough
        omega
      exact ⟨never, rests, List.eq_nil_of_length_eq_zero none⟩
  | succ fuel ih =>
      unfold awaitWithin at never ⊢
      split at never
      · cases never
      rename_i silent
      split at never
      · rename_i late
        simp only [late]
        exact ⟨silent, rests, timers_eq_nil_of_dueTimers (List.isEmpty_iff.mp late)⟩
      · rename_i late
        simp only [late]
        obtain ⟨rests', alarms⟩ := passTime_rests hstart proper
          fun none => late (List.isEmpty_iff.mpr none)
        exact ih (Unfolds.proper (unfolds_passTime r) hstart proper) rests' (by omega) never

/-- **What a rehearsal gives up waiting for never comes**: nothing can happen at once any more, and
time cannot bring anything either, for there is no timer left. -/
theorem awaitResult_exhausted {α : Type} {result? : Rehearsal → Option α} (proper : Proper p r)
    (never : (r.awaitResult result?).1 = none) :
    result? (r.awaitResult result?).2 = none ∧ (r.awaitResult result?).2.nextMove? = none ∧
      (r.awaitResult result?).2.pool.timers = [] := by
  obtain ⟨moves, h⟩ := proper.run
  have bound := (Pool.run?_backlog_le hstart h).2
  obtain ⟨rests, alarms⟩ := settle_rests hstart proper
  exact awaitWithin_exhausted hstart (Unfolds.proper (unfolds_settle r) hstart proper) rests
    (by omega) never

/-- An owner is told that an answer never comes only if there is none, and none can come. -/
theorem awaitAnswer_exhausted {ticket : Nat} (proper : Proper p r)
    (never : (r.awaitAnswer ticket).1 = .never) :
    (r.awaitAnswer ticket).2.pool.answer? ticket = none ∧
      (r.awaitAnswer ticket).2.nextMove? = none ∧
      (r.awaitAnswer ticket).2.pool.timers = [] := by
  have exhausted := @awaitResult_exhausted r p concurrency timeout starts hstart Answer
    (fun r => r.pool.answer? ticket) proper
  unfold awaitAnswer at never ⊢
  split at never
  · cases never
  · rename_i r' awaited
    rw [awaited] at exhausted
    exact exhausted rfl

end Rest

/-! ## Rehearsals from the start -/

/-- **A rehearsal is a run of a pool**: whatever cues are followed, the pool has made a run from its
start, workers reported what the scripts of their payloads say, and the books are in order.  What
an owner is told on the way is what the pool answered, and it stays that to the end. -/
theorem followAll_proper {concurrency timeout : Nat} (h : start concurrency timeout = .ok r)
    (cues : List Cue) :
    Pool.start concurrency timeout = .ok r.pool ∧ Proper r.pool (r.followAll cues).2 ∧
      ∀ a, .answer a ∈ (r.followAll cues).1 →
        ∃ ticket, (r.followAll cues).2.pool.answer? ticket = some a := by
  obtain ⟨hstart, proper⟩ := start_proper h
  refine ⟨hstart, Unfolds.proper (unfolds_followAll r cues) hstart proper, ?_⟩
  clear h hstart proper
  induction cues generalizing r with
  | nil => exact fun a member => nomatch member
  | cons cue rest ih =>
      intro a member
      rcases List.mem_cons.mp member with now | later
      · obtain ⟨ticket, told⟩ := follow_eq_answer now.symm
        exact ⟨ticket, (Unfolds.log (unfolds_followAll _ rest)).answer? told⟩
      · exact ih a later

end Rehearsal

end Decipher
