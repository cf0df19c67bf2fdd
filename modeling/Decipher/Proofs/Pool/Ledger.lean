import Decipher.Proofs.Pool.Change
import Mathlib.Algebra.GroupWithZero.Nat

/-!
# Where tasks are

A task that was submitted waits in the channel, waits in the queue, is worked on by a slot
that owes its owner an answer, or was answered.  `Pool.places` counts how often a ticket
is found in these four places together.

* `Change.places`: a change moves tickets from one place to another.  It never makes one,
  but for that of a new submission, and never loses one.
* `Accounted`: hence each ticket is in one place, once, and no owner is told twice.
* `WoundUp`: a dispatcher that ends by itself has nothing left to do.
* `run?_after_stop`: after a stop those who had no answer, and those who come later, are told
  that the pool is closed.

The four numbers are kept apart, since a count that is 1 in all says more than four lists without
doubles: a ticket cannot be in the queue and in a slot at once, nor be answered while a slot still
owes its answer.  That the sum is 1 is proved by what each change does to it, and not by what the
lists look like; for it, the changes are gone through once, in `Change.places`.

A slot that drains is in none of the four places.  Its worker is still busy with a task, but the
owner of the task has an answer.
-/

namespace Decipher

/-- Whether a slot owes an answer for a ticket.  A slot that drains owes none, for its owner was
told already. -/
def SlotState.owes (ticket : Nat) (state : SlotState) : Bool :=
  state.task?.any fun task => task.ticket == ticket

@[simp] theorem SlotState.owes_idle (ticket : Nat) : SlotState.idle.owes ticket = false := rfl

@[simp] theorem SlotState.owes_busy (ticket dispatch : Nat) (task : Task) :
    (SlotState.busy dispatch task).owes ticket = (task.ticket == ticket) := rfl

/-- A slot that drains owes nobody anything, as its owner was told that the time was up. -/
@[simp] theorem SlotState.owes_draining (ticket dispatch : Nat) :
    (SlotState.draining dispatch).owes ticket = false := rfl

/-- A slot that loses the dispatcher owes nothing more, since a stop tells all who wait. -/
@[simp] theorem Slot.owes_abandon (ticket : Nat) (s : Slot) :
    s.abandon.state.owes ticket = false := by
  unfold abandon
  cases state : s.state <;> simp [state]

theorem countP_cons_toNat {α : Type} (f : α → Bool) (a : α) (rest : List α) :
    (a :: rest).countP f = rest.countP f + (f a).toNat := by
  cases counts : f a <;> simp [counts]

/-- Replacing a slot exchanges what the old one and the new one add to a sum. -/
theorem Slot.sum_set {slots : List Slot} {slot : Nat} {s : Slot} (f : Slot → Nat)
    (found : slots[slot]? = some s) (t : Slot) :
    ((slots.set slot t).map f).sum + f s = (slots.map f).sum + f t := by
  induction slots generalizing slot with
  | nil => cases found
  | cons first rest ih =>
      cases slot with
      | zero =>
          cases found
          simp only [List.set_cons_zero, List.map_cons, List.sum_cons]
          omega
      | succ slot =>
          have deeper := ih (List.getElem?_cons_succ ▸ found)
          simp only [List.set_cons_succ, List.map_cons, List.sum_cons]
          omega

/-- Counting is adding. -/
theorem Slot.countP_eq_sum (f : Slot → Bool) (slots : List Slot) :
    slots.countP f = (slots.map fun s => (f s).toNat).sum := by
  induction slots with
  | nil => rfl
  | cons first rest ih =>
      rw [countP_cons_toNat, ih, List.map_cons, List.sum_cons, Nat.add_comm]

/-- Replacing a slot exchanges what the old one and the new one add to a count. -/
theorem Slot.countP_set {slots : List Slot} {slot : Nat} {s : Slot} (f : Slot → Bool)
    (found : slots[slot]? = some s) (t : Slot) :
    (slots.set slot t).countP f + (f s).toNat = slots.countP f + (f t).toNat := by
  rw [Slot.countP_eq_sum, Slot.countP_eq_sum]
  exact Slot.sum_set (fun s => (f s).toNat) found t

namespace Pool

variable {p q : Pool}

/-- How often a ticket is found in the channel. -/
def inChannel (p : Pool) (ticket : Nat) : Nat :=
  p.channel.countP fun task => task.ticket == ticket

/-- How often a ticket is found in the queue. -/
def inQueue (p : Pool) (ticket : Nat) : Nat := p.queue.countP fun task => task.ticket == ticket

/-- How many slots owe an answer for a ticket. -/
def inSlots (p : Pool) (ticket : Nat) : Nat := p.slots.countP fun s => s.state.owes ticket

/-- How often a ticket was answered. -/
def timesAnswered (p : Pool) (ticket : Nat) : Nat :=
  p.answers.countP fun entry => entry.1 == ticket

/-- How often a ticket is found at all.  There are four kinds of places, and an answer is the last
of them. -/
def places (p : Pool) (ticket : Nat) : Nat :=
  p.inChannel ticket + p.inQueue ticket + p.inSlots ticket + p.timesAnswered ticket

/-! ## Changes move tickets -/

/-- Tasks whose owners wait are in a slot, in the queue or in the channel. -/
theorem countP_unanswered (p : Pool) (ticket : Nat) :
    p.unanswered.countP (fun task => task.ticket == ticket) =
      p.inSlots ticket + p.inQueue ticket + p.inChannel ticket := by
  have owed : (fun s : Slot => (s.state.task?.map fun task => task.ticket == ticket).getD false) =
      fun s => s.state.owes ticket := by
    funext s
    cases s.state <;> rfl
  simp only [unanswered, inSlots, inQueue, inChannel, List.countP_append,
    List.countP_filterMap, owed]

/-- A ticket goes from the queue into the slot that is handed its task, or to the answers if the
task is refused. -/
theorem Assigns.places {slot : Nat} (assigns : Assigns p slot q) (ticket : Nat) :
    q.places ticket = p.places ticket := by
  have exchanged {s : Slot} (found : p.slots[slot]? = some s) :=
    Slot.countP_set (fun s => s.state.owes ticket) found
  simp only [Pool.places, inChannel, inQueue, inSlots, timesAnswered]
  cases assigns with
  | hand s generation calls task rest active waiting found idle =>
      have slots := exchanged found ⟨generation, true, .busy p.assignments.length task,
        s.mailbox ++ [⟨p.assignments.length, task.payload⟩], s.running⟩
      simp only [idle, SlotState.owes_idle, SlotState.owes_busy, Bool.toNat_false] at slots
      simp only [waiting, countP_cons_toNat]
      omega
  | refuse s task rest active waiting found idle unstaffed fails =>
      have slots := exchanged found
        { s with generation := s.generation + 1, staffed := false }
      dsimp only at slots
      simp only [waiting, List.countP_append, countP_cons_toNat, List.countP_nil]
      omega

/-- **Tickets are neither made nor lost.**  The one that is new is that of a submission.  Any other
change takes tickets from one place to another, so that what one count loses another gains. -/
theorem Change.places (change : Change p q) (ticket : Nat) :
    q.places ticket = p.places ticket +
      if p.payloads.length ≤ ticket ∧ ticket < q.payloads.length then 1 else 0 := by
  have none_new : ¬ (p.payloads.length ≤ ticket ∧ ticket < p.payloads.length) := by omega
  have exchanged {slot : Nat} {s : Slot} (found : p.slots[slot]? = some s) :=
    Slot.countP_set (fun s => s.state.owes ticket) found
  simp only [Pool.places, inChannel, inQueue, inSlots, timesAnswered]
  cases change with
  | submit payload owned active =>
      simp only [List.countP_append, List.countP_singleton, List.length_append,
        List.length_singleton, beq_iff_eq]
      split <;> split <;> omega
  | reject payload owned gone =>
      simp only [List.countP_append, List.countP_singleton, List.length_append,
        List.length_singleton, beq_iff_eq]
      split <;> split <;> omega
  | receive task rest active waiting =>
      simp only [waiting, List.countP_append, countP_cons_toNat, List.countP_nil, if_neg none_new]
      omega
  | assign slot assigns =>
      have same := assigns.places ticket
      simp only [Pool.places, inChannel, inQueue, inSlots, timesAnswered] at same
      rw [same, assigns.payloads, if_neg none_new, Nat.add_zero]
  | report slot s dispatch task report rest active told found busy =>
      -- The slot ceases to owe the ticket, and the answer takes its place in the count.
      have slots := exchanged found { s with state := .idle }
      simp only [busy, SlotState.owes_idle, SlotState.owes_busy, Bool.toNat_false] at slots
      simp only [List.countP_append, countP_cons_toNat, List.countP_nil, if_neg none_new]
      omega
  | release slot s dispatch report rest active told found draining =>
      have slots := exchanged found { s with state := .idle }
      simp only [draining, SlotState.owes_idle, SlotState.owes_draining] at slots
      simp only [if_neg none_new]
      omega
  | overrun slot s dispatch task rest active told found busy =>
      have slots := exchanged found { s with state := .draining dispatch }
      simp only [busy, SlotState.owes_draining, SlotState.owes_busy, Bool.toNat_false] at slots
      simp only [List.countP_append, countP_cons_toNat, List.countP_nil, if_neg none_new]
      omega
  | begin slot s job rest found staffed free waiting =>
      have slots := exchanged found { s with mailbox := rest, running := some job }
      dsimp only at slots
      simp only [if_neg none_new]
      omega
  | finish slot s job report found runs =>
      have slots := exchanged found { s with running := none }
      dsimp only at slots
      simp only [if_neg none_new]
      omega
  | stop active =>
      have moved := countP_unanswered p ticket
      simp only [inSlots, inQueue, inChannel] at moved
      -- All three places are emptied into the answers, and no slot that is abandoned owes one.
      simp [Pool.stop, none_new, List.countP_map, Function.comp_def, moved]
      omega
  | _ => simp [none_new]

/-! ## Each ticket is in one place -/

/-- **Each ticket that was given out is in one place, once, and no other is anywhere.**  So none
gets lost and none is answered twice. -/
def Accounted (p : Pool) : Prop :=
  ∀ ticket, p.places ticket = if ticket < p.payloads.length then 1 else 0

theorem start_accounted {concurrency timeout : Nat} {starts : Nat → Bool}
    (h : start concurrency timeout starts = .ok p) : p.Accounted := by
  obtain ⟨-, rfl⟩ := start_eq_ok h
  intro ticket
  have idle : (fun s : Slot => s.state.owes ticket) ∘ (fun slot => { staffed := starts slot }) =
      fun _ => false := rfl
  simp [places, inChannel, inQueue, inSlots, timesAnswered, List.countP_map, idle]

/-- What a change makes of the count is just what it makes of the number of submissions. -/
theorem Change.accounted (change : Change p q) (accounted : p.Accounted) : q.Accounted := by
  intro ticket
  have grown := change.log.payloads.length_le
  rw [change.places, accounted ticket]
  split <;> split <;> split <;> omega

/-- Who was told something was told nothing else.  `answer?` finds the first answer under a ticket,
and as there is one at most, it finds the one. -/
theorem Accounted.answer?_eq_some_iff (accounted : p.Accounted) {ticket : Nat} {a : Answer} :
    p.answer? ticket = some a ↔ (ticket, a) ∈ p.answers := by
  have once : p.timesAnswered ticket ≤ 1 := by
    have total := accounted ticket
    unfold places at total
    split at total <;> omega
  unfold answer?
  constructor
  · intro found
    obtain ⟨before, after, split, -⟩ := List.lookup_eq_some_iff.mp found
    rw [split]
    simp
  · intro member
    obtain ⟨before, after, split⟩ := List.append_of_mem member
    refine List.lookup_eq_some_iff.mpr ⟨before, after, split, fun entry earlier => ?_⟩
    -- The ticket was answered once, so the first answer that is found is the one.
    have none_before : before.countP (fun entry => entry.1 == ticket) = 0 := by
      simp only [timesAnswered, split, List.countP_append, List.countP_cons, beq_self_eq_true,
        if_true] at once
      omega
    have other := List.countP_eq_zero.mp none_before entry earlier
    rw [beq_iff_eq] at other
    exact bne_iff_ne.mpr (Ne.symm other)

/-! ## Winding up -/

/-- How a pool comes to its end: a dispatcher that does not listen any more has no owners and
no channel to listen to, and one that is done has nothing left to do. -/
structure WoundUp (p : Pool) : Prop where
  deaf : p.listening = false → p.owned = false ∧ p.channel = []
  done : p.phase = .drained → p.listening = false ∧ p.queue = [] ∧ p.allIdle = true

theorem start_woundUp {concurrency timeout : Nat} {starts : Nat → Bool}
    (h : start concurrency timeout starts = .ok p) : p.WoundUp := by
  obtain ⟨-, rfl⟩ := start_eq_ok h
  exact ⟨by simp, by simp⟩

/-- A slot that is replaced by one in the same state leaves the others as idle as they were. -/
theorem allIdle_set {slot : Nat} {s t : Slot} (found : p.slots[slot]? = some s)
    (same : t.state = s.state) (idle : p.allIdle = true) :
    { p with slots := p.slots.set slot t }.allIdle = true := by
  simp only [allIdle, List.all_eq_true] at idle ⊢
  intro u member
  rcases List.mem_or_eq_of_mem_set member with old | rfl
  · exact idle u old
  · rw [same]
    exact idle s (List.mem_of_getElem? found)

/-- How a pool winds up is kept by every change: owners do not come back, and a dispatcher that is
done does not begin again. -/
theorem Change.woundUp (change : Change p q) (wound : p.WoundUp) : q.WoundUp := by
  -- Whatever the dispatcher itself does it does before it is done.
  have busy (active : p.phase = .active) (same : q.phase = p.phase) {P : Prop}
      (done : q.phase = .drained) : P := by
    rw [same, active] at done
    cases done
  cases change with
  | submit payload owned active =>
      refine ⟨fun deaf => ?_, busy active rfl⟩
      rw [(wound.deaf deaf).1] at owned
      cases owned
  | leave owned => exact ⟨fun deaf => ⟨rfl, (wound.deaf deaf).2⟩, wound.done⟩
  | receive task rest active waiting =>
      refine ⟨fun deaf => ?_, busy active rfl⟩
      rw [(wound.deaf deaf).2] at waiting
      cases waiting
  | close active waiting listening owned =>
      exact ⟨fun _ => ⟨owned, waiting⟩, busy active rfl⟩
  | drain active listening waiting idle =>
      exact ⟨wound.deaf, fun _ => ⟨listening, waiting, idle⟩⟩
  | begin slot s job rest found staffed free waiting =>
      refine ⟨wound.deaf, fun done => ?_⟩
      obtain ⟨deaf, empty, idle⟩ := wound.done done
      exact ⟨deaf, empty, allIdle_set (p := p) found rfl idle⟩
  | finish slot s job report found runs =>
      refine ⟨wound.deaf, fun done => ?_⟩
      obtain ⟨deaf, empty, idle⟩ := wound.done done
      exact ⟨deaf, empty, allIdle_set (p := p) found rfl idle⟩
  | reject payload owned gone => exact ⟨wound.deaf, wound.done⟩
  | expire timer armed => exact ⟨wound.deaf, wound.done⟩
  | stop active => exact ⟨fun deaf => ⟨(wound.deaf deaf).1, rfl⟩, fun done => by cases done⟩
  | assign slot assigns =>
      have active := assigns.active
      cases assigns <;> exact ⟨wound.deaf, busy active rfl⟩
  | _ => exact ⟨wound.deaf, busy ‹p.phase = .active› rfl⟩

/-! ## After a stop -/

/-- A dispatcher that is gone stays so, for the reason for which it went. -/
theorem Change.phase_of_ne_active (change : Change p q) (gone : p.phase ≠ .active) :
    q.phase = p.phase := by
  cases change with
  | assign slot assigns => exact absurd assigns.active gone
  | _ => first | rfl | exact absurd ‹p.phase = .active› gone

/-- When the dispatcher is gone, the only answers are those to submissions that come too
late. -/
theorem Change.answers_of_ne_active (change : Change p q) (gone : p.phase ≠ .active) :
    (q.payloads = p.payloads ∧ q.answers = p.answers) ∨
      ∃ payload, q.payloads = p.payloads ++ [payload] ∧
        q.answers = p.answers ++ [(p.payloads.length, .error .closed)] := by
  cases change with
  | reject payload _ _ => exact Or.inr ⟨payload, rfl, rfl⟩
  | assign slot assigns => exact absurd assigns.active gone
  | _ => first | exact Or.inl ⟨rfl, rfl⟩ | exact absurd ‹p.phase = .active› gone

theorem answer?_eq_none_iff {ticket : Nat} :
    p.answer? ticket = none ↔ p.timesAnswered ticket = 0 := by
  rw [answer?, List.lookup_eq_none_iff, timesAnswered, List.countP_eq_zero]
  refine forall₂_congr fun entry member => ?_
  rw [bne_iff_ne, beq_iff_eq]
  exact ne_comm

/-- Nobody is told anything under a ticket that was not given out. -/
theorem Accounted.answer?_eq_none (accounted : p.Accounted) {ticket : Nat}
    (new : p.payloads.length ≤ ticket) : p.answer? ticket = none := by
  have total := accounted ticket
  rw [if_neg (by omega)] at total
  rw [answer?_eq_none_iff]
  unfold places at total
  omega

/-- A ticket that was given out and has no answer is that of a task whose owner waits. -/
theorem Accounted.mem_unanswered (accounted : p.Accounted) {ticket : Nat}
    (given : ticket < p.payloads.length) (silent : p.answer? ticket = none) :
    ∃ task ∈ p.unanswered, task.ticket = ticket := by
  have never : p.timesAnswered ticket = 0 := answer?_eq_none_iff.mp silent
  have total := accounted ticket
  rw [if_pos given] at total
  have waits : 0 < p.unanswered.countP fun task => task.ticket == ticket := by
    rw [countP_unanswered]
    unfold places at total
    omega
  obtain ⟨task, member, same⟩ := List.countP_pos_iff.mp waits
  exact ⟨task, member, by simpa using same⟩

/-- How matters stand in `q` once the dispatcher was stopped in `p`: those who had an answer
keep it, and all others are told that the pool is closed. -/
structure ClosedSince (p q : Pool) : Prop where
  stopped : q.phase = .stopped
  accounted : q.Accounted
  known : p.payloads.length ≤ q.payloads.length
  told : ∀ ticket < q.payloads.length,
    q.answer? ticket = some ((p.answer? ticket).getD (.error .closed))

/-- A stop tells everyone who waits that the pool is closed, and nobody else anything.  Who had an
answer keeps it: what counts under a ticket is what was answered first. -/
theorem stop_closedSince (active : p.phase = .active) (accounted : p.Accounted) :
    ClosedSince p p.stop := by
  refine ⟨rfl, (Change.stop active).accounted accounted, Nat.le_refl _, fun ticket given => ?_⟩
  have answered : p.stop.answer? ticket = (p.answer? ticket).or
      ((p.unanswered.map fun task => (task.ticket, Except.error PoolError.closed)).lookup
        ticket) := by
    simp only [answer?, stop, List.lookup_append]
  rw [answered]
  cases told : p.answer? ticket with
  | some a => rfl
  | none =>
      obtain ⟨task, member, rfl⟩ := accounted.mem_unanswered given told
      -- The first answer in the list counts, but all of them are the same.
      generalize p.unanswered = tasks at member
      induction tasks with
      | nil => cases member
      | cons first rest ih =>
          by_cases same : task.ticket = first.ticket
          · simp [same]
          · have later : task ∈ rest := by
              rcases List.mem_cons.mp member with rfl | later
              · exact absurd rfl same
              · exact later
            simpa [List.lookup_cons, beq_false_of_ne same] using ih later

/-- After a stop only submissions are answered, and they are told that the pool is closed.  So what
the stop has told the others stays as it is. -/
theorem Change.closedSince {r : Pool} (change : Change q r) (accounted : p.Accounted)
    (closed : ClosedSince p q) : ClosedSince p r := by
  have gone : q.phase ≠ .active := by simp [closed.stopped]
  have known := change.log.payloads.length_le
  refine ⟨(change.phase_of_ne_active gone).trans closed.stopped,
    change.accounted closed.accounted, Nat.le_trans closed.known known, fun ticket given => ?_⟩
  rcases change.answers_of_ne_active gone with ⟨same, told⟩ | ⟨payload, more, told⟩
  · rw [same] at given
    rw [answer?, told]
    exact closed.told ticket given
  · rw [more, List.length_append, List.length_singleton] at given
    rw [answer?, told, List.lookup_append]
    -- Only the new submission is answered, and no answer that was there is hidden by it.
    by_cases new : ticket = q.payloads.length
    · subst new
      have silent : q.answers.lookup q.payloads.length = none :=
        closed.accounted.answer?_eq_none (Nat.le_refl _)
      rw [silent, accounted.answer?_eq_none closed.known]
      simp
    · have old := closed.told ticket (by omega)
      rw [answer?] at old
      rw [old]
      rfl

/-- **After a stop all are told, once and for all.**  It does not matter what is done with the pool
afterwards. -/
theorem run?_after_stop {r : Pool} {more : List PoolMove} (accounted : p.Accounted)
    (hstop : p.step? .stop = some q) (h : q.run? more = some r) : ClosedSince p r := by
  have stopped : p.phase = .active ∧ p.stop = q := by
    simpa [step?] using hstop
  obtain ⟨active, rfl⟩ := stopped
  exact run?_induction h (stop_closedSince active accounted) fun change =>
    change.closedSince accounted

end Pool

end Decipher
