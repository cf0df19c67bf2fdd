import Decipher.Proofs.Pool.Progress

/-!
# Whose answer it is

An owner is told what a worker reported about the owner's own payload, or why there is no
report.  Slots are used again and again, timers expire while workers are busy, and reports
come late; the number of a dispatch keeps all this apart.

* `Grounds p ticket a`: what must have happened in `p` for `a` to be the answer under a ticket.
* `Change.founded`: a change gives no answer without grounds, and takes no grounds away.
* `run?_correlated`: so every answer of a run is the owner's own, and when nobody is timed out
  the answers are the transform mapped over the payloads, whatever the number of slots and
  whatever the order in which things happen.

A report names a slot and a dispatch, and not an owner.  It is answered to the owner of the task
that the slot works on if the dispatch is the slot's own, which is what `Sound.report` needs the
books for: the dispatch was assigned to that slot, with this task, and was reported once.  A report
of a dispatch that was timed out meets a slot that drains, and is dropped.

No order is assumed.  Which worker is quicker, when a timer expires and when the dispatcher looks
is left to the run, so the last part of `Correlated` says that none of it can be seen in the
answers, as long as nobody is timed out and the dispatcher is not stopped.
-/

namespace Decipher

namespace Pool

variable {p q : Pool}

/-! ## Grounds of an answer -/

/-- Why an owner may be told something.  A report needs a worker to have said it; a timeout and a
closed pool are the dispatcher's own doing. -/
inductive Grounds (p : Pool) (ticket : Nat) : Answer → Prop
  /-- The worker that the task was assigned to reported it. -/
  | report (slot : Nat) (payload : String) (report : Report)
      (submitted : p.payloads[ticket]? = some payload)
      (assigned : p.assignments[ticket]? = some ⟨slot, ⟨ticket, payload⟩⟩)
      (reported : (⟨ticket, payload⟩, report) ∈ p.reports) :
    Grounds p ticket report.answer
  | timeout : Grounds p ticket (.error (.timeout p.timeout))
  | closed (stopped : p.phase = .stopped) : Grounds p ticket (.error .closed)
  /-- A worker was sent for and did not start. -/
  | submission (slot call : Nat) (fails : p.starts call = false) :
    Grounds p ticket (.error (.submission slot noWorker))

/-- **All answers have grounds.**  It holds of every answer at all times, since reports and
dispatches stay on record. -/
def Founded (p : Pool) : Prop := ∀ entry ∈ p.answers, Grounds p entry.1 entry.2

theorem Founded.grounds (founded : p.Founded) (accounted : p.Accounted) {ticket : Nat} {a : Answer}
    (told : p.answer? ticket = some a) : Grounds p ticket a :=
  founded (ticket, a) (accounted.answer?_eq_some_iff.mp told)

theorem start_founded {concurrency timeout : Nat} {starts : Nat → Bool}
    (h : start concurrency timeout starts = .ok p) : p.Founded := by
  obtain ⟨-, rfl⟩ := start_eq_ok h
  simp [Founded]

/-- The settings of a pool do not change. -/
theorem Change.settings (change : Change p q) : q.timeout = p.timeout ∧ q.starts = p.starts := by
  cases change with
  | assign slot assigns => cases assigns <;> exact ⟨rfl, rfl⟩
  | _ => exact ⟨rfl, rfl⟩

/-- Grounds stay grounds.  They are entries of logs, settings, or that the dispatcher was stopped,
and none of these is taken back. -/
theorem Grounds.mono (change : Change p q) {ticket : Nat} {a : Answer}
    (grounds : Grounds p ticket a) : Grounds q ticket a := by
  obtain ⟨timeout, starts⟩ := change.settings
  have log := change.log
  cases grounds with
  | report slot payload report submitted assigned reported =>
      exact Grounds.report slot payload report (getElem?_of_isPrefix log.payloads submitted)
        (log.assignment assigned) (log.reports.subset reported)
  | timeout =>
      rw [← timeout]
      exact Grounds.timeout
  | closed stopped =>
      have gone : p.phase ≠ .active := by simp [stopped]
      exact Grounds.closed ((change.phase_of_ne_active gone).trans stopped)
  | submission slot call fails => exact Grounds.submission slot call (by rw [starts, fails])

/-- The report of a busy slot is about the task that the slot works on.  This is all that has to be
known when the dispatcher passes a report on. -/
theorem Sound.report (sound : p.Sound) {slot dispatch : Nat} {s : Slot} {task : Task}
    {report : Report} (told : .completed slot dispatch report ∈ p.events)
    (found : p.slots[slot]? = some s) (busy : s.state = .busy dispatch task) :
    Grounds p task.ticket report.answer := by
  obtain ⟨ticket, payload, assigned, reported⟩ := sound.reported.told slot dispatch report told
  have mine := (sound.assigned slot s found).busy dispatch task busy
  rw [assigned, Option.some.injEq, Assignment.mk.injEq] at mine
  obtain ⟨-, rfl⟩ := mine
  obtain ⟨same, submitted⟩ := sound.inLine.assignment assigned
  dsimp only at same submitted
  subst same
  exact Grounds.report slot payload report submitted assigned reported

/-- As long as there are owners only a stop makes the dispatcher go. -/
theorem WoundUp.stopped (wound : p.WoundUp) (owned : p.owned = true) (gone : p.phase ≠ .active) :
    p.phase = .stopped := by
  cases phase : p.phase with
  | active => exact absurd phase gone
  | stopped => rfl
  | drained =>
      rw [(wound.deaf (wound.done phase).1).1] at owned
      cases owned

/-- A change gives no answer without grounds: a report is one of the slot's own dispatch, and who is
told that the pool is closed is told so after a stop. -/
theorem Change.founded (change : Change p q) (sound : p.Sound) (founded : p.Founded) :
    q.Founded := by
  -- What was answered before keeps its grounds, so that only a last answer is to be looked at.
  have more {ticket : Nat} {a : Answer} (told : q.answers = p.answers ++ [(ticket, a)])
      (grounds : Grounds q ticket a) : q.Founded := by
    intro entry member
    rw [told, List.mem_append, List.mem_singleton] at member
    rcases member with before | rfl
    · exact (founded entry before).mono change
    · exact grounds
  have change' := change
  cases change with
  | reject payload owned gone =>
      -- A dispatcher that ended by itself has no owners, so that this one was stopped.
      exact more rfl (Grounds.closed (sound.woundUp.stopped owned gone))
  | assign slot assigns =>
      cases assigns with
      | hand => exact fun entry member => (founded entry member).mono change'
      | refuse s task rest active waiting found idle unstaffed fails =>
          exact more rfl (Grounds.submission slot p.calls fails)
  | report slot s dispatch task report rest active told found busy =>
      have member : .completed slot dispatch report ∈ p.events := by simp [told]
      exact more rfl ((sound.report member found busy).mono change')
  | overrun slot s dispatch task rest active told found busy => exact more rfl Grounds.timeout
  | stop active =>
      intro entry member
      simp only [Pool.stop, List.mem_append, List.mem_map] at member
      rcases member with before | ⟨task, -, rfl⟩
      · exact (founded entry before).mono change'
      · exact Grounds.closed rfl
  | _ => exact fun entry member => (founded entry member).mono change'

theorem run?_founded {concurrency timeout : Nat} {starts : Nat → Bool} {moves : List PoolMove}
    (hstart : start concurrency timeout starts = .ok p) (h : p.run? moves = some q) :
    q.Founded :=
  run?_sound_induction hstart h (start_founded hstart) Change.founded

/-! ## The answers of a run -/

/-- A report and what its owner is told say the same.  So the report can be told from the answer. -/
theorem Report.answer_injective {r r' : Report} (same : r.answer = r'.answer) : r = r' := by
  cases r <;> cases r' <;> cases same <;> rfl

/-- Grounds of what a worker may have said. -/
theorem Grounds.of_answer {ticket : Nat} {r : Report} (grounds : Grounds p ticket r.answer) :
    ∃ slot payload, p.payloads[ticket]? = some payload ∧
      p.assignments[ticket]? = some ⟨slot, ⟨ticket, payload⟩⟩ ∧
      (⟨ticket, payload⟩, r) ∈ p.reports := by
  generalize same : r.answer = a at grounds
  cases grounds with
  | report slot payload report submitted assigned reported =>
      rw [Report.answer_injective same]
      exact ⟨slot, payload, submitted, assigned, reported⟩
  | _ => cases r <;> cases same

/-- That nothing keeps a pool from its work: workers start, what they report is what the
transform says, no owner was timed out, and the dispatcher was not stopped. -/
structure Undisturbed (transform : String → Verdict) (p : Pool) : Prop where
  starts : ∀ call, p.starts call = true
  reports : ∀ entry ∈ p.reports, entry.2 = (transform entry.1.payload).report
  timely : ∀ ticket, p.answer? ticket ≠ some (.error (.timeout p.timeout))
  unstopped : p.phase ≠ .stopped

/-- In a pool that is left alone an answer can only come from the transform.  There are four
grounds, and the other three are what being left alone excludes. -/
theorem Undisturbed.answer {transform : String → Verdict} (undisturbed : Undisturbed transform p)
    (sound : p.Sound) (founded : p.Founded) {ticket : Nat} {a : Answer}
    (told : p.answer? ticket = some a) :
    ∃ payload, p.payloads[ticket]? = some payload ∧ a = (transform payload).report.answer := by
  cases founded.grounds sound.accounted told with
  | report slot payload report submitted assigned reported =>
      have said : report = (transform payload).report := undisturbed.reports _ reported
      exact ⟨payload, submitted, by rw [said]⟩
  | timeout => exact absurd told (undisturbed.timely ticket)
  | closed stopped => exact absurd stopped undisturbed.unstopped
  | submission slot call fails =>
      rw [undisturbed.starts call] at fails
      cases fails

/-- **How answers belong to payloads.**  It is about what owners see, that is, about answers and not
about what workers or the dispatcher hold. -/
structure Correlated (p : Pool) : Prop where
  /-- What a worker said is told to the owner of the payload that the worker ran. -/
  own : ∀ (ticket : Nat) (r : Report), p.answer? ticket = some r.answer →
    ∃ slot payload, p.payloads[ticket]? = some payload ∧
      p.assignments[ticket]? = some ⟨slot, ⟨ticket, payload⟩⟩ ∧
      (⟨ticket, payload⟩, r) ∈ p.reports
  /-- A task is dispatched once, under a number of its own. -/
  numbered : ∀ (dispatch slot : Nat) (task : Task),
    p.assignments[dispatch]? = some ⟨slot, task⟩ → task.ticket = dispatch
  /-- A dispatch is reported once, so that there is no other report to be taken for it. -/
  once : (p.reports.map fun entry => entry.1.dispatch).Nodup
  /-- There are no other answers. -/
  other : ∀ (ticket : Nat) (a : Answer), p.answer? ticket = some a →
    (∃ r : Report, a = r.answer) ∨ a = .error (.timeout p.timeout) ∨
      (a = .error .closed ∧ p.phase = .stopped) ∨
      ∃ slot call, a = .error (.submission slot noWorker) ∧ p.starts call = false
  /-- When nothing intervenes the answers are those of the transform, and when nothing more
  can happen they are there. -/
  vector : ∀ transform : String → Verdict, Undisturbed transform p →
    (∀ (ticket : Nat) (a : Answer), p.answer? ticket = some a →
      ∃ payload, p.payloads[ticket]? = some payload ∧ a = (transform payload).report.answer) ∧
    (p.Quiet → (List.range p.payloads.length).map p.answer? =
      p.payloads.map fun payload => some (transform payload).report.answer)

/-- **Every answer belongs to its own payload.**  This holds in every run; and if nothing intervenes
and nothing more can happen, the answers are the transform mapped over the payloads. -/
theorem run?_correlated {concurrency timeout : Nat} {starts : Nat → Bool} {moves : List PoolMove}
    (hstart : start concurrency timeout starts = .ok p) (h : p.run? moves = some q) :
    Correlated q := by
  have sound := run?_sound hstart h
  have founded := run?_founded hstart h
  have prompt := run?_prompt hstart h
  refine ⟨fun ticket r told => (founded.grounds sound.accounted told).of_answer,
    fun dispatch slot task noted => (sound.inLine.assignment noted).1, sound.reported.once,
    fun ticket a told => ?_, fun transform undisturbed => ⟨fun ticket a told =>
      undisturbed.answer sound founded told, fun quiet => ?_⟩⟩
  · cases founded.grounds sound.accounted told with
    | report slot payload report submitted assigned reported => exact Or.inl ⟨report, rfl⟩
    | timeout => exact Or.inr (Or.inl rfl)
    | closed stopped => exact Or.inr (Or.inr (Or.inl ⟨rfl, stopped⟩))
    | submission slot call fails => exact Or.inr (Or.inr (Or.inr ⟨slot, call, rfl, fails⟩))
  · have slots : q.slots ≠ [] := by
      have length := run?_length_slots h
      rw [start_length_slots hstart] at length
      rw [← List.length_pos_iff, length]
      exact Nat.pos_of_ne_zero (start_eq_ok hstart).1
    apply List.ext_getElem?
    intro ticket
    rw [List.getElem?_map, List.getElem?_map]
    -- Both lists are as long as that of the payloads, so they are compared ticket by ticket.
    by_cases given : ticket < q.payloads.length
    · obtain ⟨a, told⟩ := quiet.answered sound prompt slots undisturbed.unstopped given
      obtain ⟨payload, submitted, same⟩ := undisturbed.answer sound founded told
      rw [List.getElem?_range given, submitted, Option.map_some, Option.map_some, told, same]
    · rw [List.getElem?_eq_none (by simpa using given),
        List.getElem?_eq_none (Nat.le_of_not_lt given)]
      rfl

/-- A transform that breaks off on one payload.  The other payloads are returned as they are. -/
def fragile (payload : String) : Verdict :=
  if payload = "bad" then .crashed none else .returned payload

/-- Two tasks on two slots, of which the second is done first.  Both reports are attended to in the
order in which they came. -/
def crossed : List PoolMove :=
  [.submit "bad", .submit "good", .receive, .receive, .begin 0, .begin 1,
    .finish 1 (fragile "good").report, .finish 0 (fragile "bad").report, .attend, .attend]

/-- How it ends.  Reports stand in the order in which they came, and so do answers. -/
def crossedEnd : Pool where
  timeout := 30
  slots := [{}, {}]
  calls := 2
  payloads := ["bad", "good"]
  assignments := [⟨0, ⟨0, "bad"⟩⟩, ⟨1, ⟨1, "good"⟩⟩]
  halted := [⟨1, 1⟩, ⟨0, 0⟩]
  reports := [(⟨1, "good"⟩, (fragile "good").report), (⟨0, "bad"⟩, (fragile "bad").report)]
  answers := [(1, (fragile "good").report.answer), (0, (fragile "bad").report.answer)]

/-- Nothing can happen any more: both reports were attended to, and the timers were stopped. -/
theorem crossedEnd_quiet : crossedEnd.Quiet where
  receive := rfl
  attend := rfl
  begin slot := by
    rcases slot with _ | _ | slot <;> rfl
  finish slot report := by
    rcases slot with _ | _ | slot <;> rfl

/-- Nothing came in between. -/
theorem crossedEnd_undisturbed : Undisturbed fragile crossedEnd where
  starts _ := rfl
  reports := by simp [crossedEnd]
  timely ticket told := by
    rcases ticket with _ | _ | ticket <;> cases told
  unstopped := by simp [crossedEnd]

/-- The answers stand in the order of the payloads, though the second came first. -/
theorem crossed_correlated :
    ∃ p q, start 2 30 = .ok p ∧ p.run? crossed = some q ∧ Correlated q ∧
      Undisturbed fragile q ∧ q.Quiet ∧
      (List.range 2).map q.answer? =
        [some (.error (.failed "transform panicked: unknown panic")), some (.ok "good")] := by
  have starts : start 2 30 = .ok { timeout := 30, slots := [{}, {}], calls := 2 } := rfl
  have ends : ({ timeout := 30, slots := [{}, {}], calls := 2 } : Pool).run? crossed =
      some crossedEnd := rfl
  exact ⟨_, _, starts, ends, run?_correlated starts ends, crossedEnd_undisturbed,
    crossedEnd_quiet, rfl⟩

end Pool

end Decipher
