import Decipher.Proofs.Pool.Correlation

/-!
# How a pool takes its leave

When all owners have left, the dispatcher still does the work that there is, and then goes by
itself: not before everything is done, and not a turn later.

* `Finished`: the dispatcher knows that nobody will submit any more, no task waits in the queue,
  and no slot works, not even on something that nobody waits for.
* `step?_watchful`: a dispatcher that has not left has not finished, since it looks at the end of
  each turn.
* `run?_departs`: when it leaves all owners were told what became of their tasks, and a pool that
  is left by its owners always comes to this end.

The dispatcher learns that all owners have left when it receives from an empty channel, and then it
does not listen any more (`listening`); until then it cannot know, and waits.  A slot that drains
keeps it, though nobody waits for what becomes of the task: its worker has not returned.

Safety and liveness are told apart in `Departs`.  `done`, `told`, `final`, `prompt` and `leaves`
are about what is so when it leaves; `rests` and `ends` tell that it does, whatever order things
happen in and whatever transforms come to, as long as each of them ends.
-/

namespace Decipher

namespace Pool

variable {p q : Pool} {move : PoolMove}

/-- **Everything is done**, and nothing more will come.  A slot that drains counts as work to be
done, since its worker has a job in hand. -/
structure Finished (p : Pool) : Prop where
  deaf : p.listening = false
  empty : p.queue = []
  idle : ∀ s ∈ p.slots, s.state = .idle

theorem allIdle_iff : p.allIdle = true ↔ ∀ s ∈ p.slots, s.state = .idle := by
  simp [allIdle, SlotState.isIdle_iff]

/-! ## The end of a turn -/

/-- At the end of a turn the dispatcher leaves just if everything is done.  It looks after it has
handed out what it can, since a task that was just handed out is a reason to stay. -/
theorem settle_drained_iff (active : p.phase = .active) :
    p.settle.phase = .drained ↔ p.settle.Finished := by
  have before : (p.assignAll p.queue).phase = .active := by rw [assignAll_phase, active]
  simp only [settle]
  split
  · rename_i done
    simp only [Bool.and_eq_true, Bool.not_eq_true', List.isEmpty_iff, allIdle_iff] at done
    exact ⟨fun _ => ⟨done.1.1, done.1.2, done.2⟩, fun _ => rfl⟩
  · rename_i undone
    simp only [Bool.and_eq_true, Bool.not_eq_true', List.isEmpty_iff, allIdle_iff] at undone
    refine ⟨fun left => ?_, fun finished => ?_⟩
    · rw [before] at left
      cases left
    · exact absurd ⟨⟨finished.deaf, finished.empty⟩, finished.idle⟩ undone

/-- **A dispatcher that is still there has something to do**, or to wait for.  In other words, it
leaves in the first turn in which it can. -/
def Watchful (p : Pool) : Prop := p.phase = .active → ¬ p.Finished

/-- At the end of a turn a dispatcher that is still there has something to wait for. -/
theorem settle_watchful (active : p.phase = .active) : p.settle.Watchful := by
  intro still finished
  rw [(settle_drained_iff active).mpr finished] at still
  cases still

theorem start_watchful {concurrency timeout : Nat} {starts : Nat → Bool}
    (h : start concurrency timeout starts = .ok p) : p.Watchful := by
  obtain ⟨-, rfl⟩ := start_eq_ok h
  exact fun _ finished => Bool.noConfusion finished.deaf

/-- What the dispatcher does not know of finishes nothing. -/
theorem Watchful.of_eq (watchful : p.Watchful) (phase : q.phase = p.phase)
    (listening : q.listening = p.listening) (queue : q.queue = p.queue)
    (states : q.slots.map Slot.state = p.slots.map Slot.state) : q.Watchful := by
  intro active finished
  refine watchful (phase ▸ active) ⟨listening ▸ finished.deaf, queue ▸ finished.empty, ?_⟩
  have idle : ∀ state ∈ q.slots.map Slot.state, state = .idle :=
    List.forall_mem_map.mpr finished.idle
  rw [states] at idle
  exact List.forall_mem_map.mp idle

/-- No move leaves a dispatcher behind that has nothing to do.  Its own moves end with a look at
what there is; those of others neither free a slot nor stop it from listening. -/
theorem step?_watchful (h : p.step? move = some q) (watchful : p.Watchful) : q.Watchful := by
  cases step?_step h with
  | submit payload owned =>
      unfold submit
      dsimp only
      split <;> exact watchful.of_eq rfl rfl rfl rfl
  | receive task rest active waiting => exact settle_watchful active
  | close active waiting listening owned => exact settle_watchful active
  | attend event rest active told => exact settle_watchful (by rw [attend_phase, active])
  | begin slot s job rest found staffed free waiting =>
      exact watchful.of_eq rfl rfl rfl
        (Slot.map_state_set (t := { s with mailbox := rest, running := some job }) found rfl)
  | finish slot s job report found runs =>
      exact watchful.of_eq rfl rfl rfl
        (Slot.map_state_set (t := { s with running := none }) found rfl)
  | stop active => exact fun now => by cases now
  | _ => exact watchful.of_eq rfl rfl rfl rfl

theorem run?_watchful {concurrency timeout : Nat} {starts : Nat → Bool} {moves : List PoolMove}
    (hstart : start concurrency timeout starts = .ok p) (h : p.run? moves = some q) :
    q.Watchful :=
  run?_move_induction h (start_watchful hstart) step?_watchful

/-- Only a turn of the dispatcher makes it leave, as only at the end of one does it look whether it
can. -/
theorem step?_drained (h : p.step? move = some q) (left : q.phase = .drained) :
    p.phase = .drained ∨ move = .receive ∨ move = .attend := by
  cases step?_step h with
  | receive | close => exact Or.inr (Or.inl rfl)
  | attend => exact Or.inr (Or.inr rfl)
  | submit payload owned =>
      refine Or.inl ?_
      unfold submit at left
      dsimp only at left
      split at left <;> exact left
  | stop active => cases left
  | _ => exact Or.inl left

/-! ## Nobody is left behind -/

/-- A dispatcher that left by itself had everything done. -/
theorem WoundUp.finished (wound : p.WoundUp) (left : p.phase = .drained) : p.Finished := by
  obtain ⟨deaf, empty, idle⟩ := wound.done left
  exact ⟨deaf, empty, allIdle_iff.mp idle⟩

/-- As long as the dispatcher is not stopped it has left just if everything is done. -/
theorem Sound.drained_iff (sound : p.Sound) (watchful : p.Watchful)
    (unstopped : p.phase ≠ .stopped) : p.phase = .drained ↔ p.Finished := by
  refine ⟨sound.woundUp.finished, fun finished => ?_⟩
  cases phase : p.phase with
  | active => exact absurd finished (watchful phase)
  | drained => rfl
  | stopped => exact absurd phase unstopped

/-- When the dispatcher has left by itself every owner was told what became of the task: what it
came to, that it failed, or that it took too long.  To be told that the pool is closed takes a stop.
-/
theorem Sound.told (sound : p.Sound) (founded : p.Founded) (left : p.phase = .drained)
    (staffed : ∀ call, p.starts call = true) {ticket : Nat} (given : ticket < p.payloads.length) :
    (∃ output, p.answer? ticket = some (.ok output)) ∨
      (∃ message, p.answer? ticket = some (.error (.failed message))) ∨
      p.answer? ticket = some (.error (.timeout p.timeout)) := by
  have finished := sound.woundUp.finished left
  obtain ⟨a, answered⟩ := sound.accounted.answered (sound.woundUp.deaf finished.deaf).2
    finished.empty finished.idle given
  cases founded.grounds sound.accounted answered with
  | report slot payload report submitted assigned reported =>
      cases report with
      | ok output => exact Or.inl ⟨output, answered⟩
      | error message => exact Or.inr (Or.inl ⟨message, answered⟩)
  | timeout => exact Or.inr (Or.inr answered)
  | closed stopped =>
      -- Only a stop closes a pool on somebody, and this one ended by itself.
      rw [left] at stopped
      cases stopped
  | submission slot call fails =>
      rw [staffed call] at fails
      cases fails

/-- When the dispatcher has left by itself nothing is submitted and nothing answered any more. -/
theorem Change.after_drained (change : Change p q) (wound : p.WoundUp)
    (left : p.phase = .drained) :
    q.phase = .drained ∧ q.payloads = p.payloads ∧ q.answers = p.answers := by
  have gone : p.phase ≠ .active := by simp [left]
  have nobody : p.owned = false := (wound.deaf (wound.done left).1).1
  refine ⟨(change.phase_of_ne_active gone).trans left, ?_⟩
  cases change with
  | assign slot assigns => exact absurd assigns.active gone
  | reject payload owned _ =>
      -- The only answers of a pool without a dispatcher are those to owners who come too late.
      rw [nobody] at owned
      cases owned
  | _ => first | exact ⟨rfl, rfl⟩ | exact absurd ‹p.phase = .active› gone

theorem run?_after_drained {moves : List PoolMove} (h : p.run? moves = some q)
    (wound : p.WoundUp) (left : p.phase = .drained) :
    q.phase = .drained ∧ q.payloads = p.payloads ∧ q.answers = p.answers := by
  refine (run?_induction (P := fun r => r.WoundUp ∧ r.phase = .drained ∧
    r.payloads = p.payloads ∧ r.answers = p.answers) h ⟨wound, left, rfl, rfl⟩
    fun change before => ?_).2
  obtain ⟨wound, left, payloads, answers⟩ := before
  obtain ⟨left', payloads', answers'⟩ := change.after_drained wound left
  exact ⟨change.woundUp wound, left', payloads'.trans payloads, answers'.trans answers⟩

/-! ## The end comes -/

/-- Owners who left do not come back. -/
theorem Change.unowned (change : Change p q) (gone : p.owned = false) : q.owned = false := by
  cases change with
  | leave owned => rfl
  | assign slot assigns => cases assigns <;> exact gone
  | _ => exact gone

/-- **A pool that its owners have left does not rest before its dispatcher leaves too.**  As long as
it listens it can still learn that they left, and when it does not, all that it waited for has
happened. -/
theorem Quiet.drained (quiet : p.Quiet) (sound : p.Sound) (prompt : p.Prompt)
    (watchful : p.Watchful) (slots : p.slots ≠ []) (gone : p.owned = false)
    (unstopped : p.phase ≠ .stopped) : p.phase = .drained := by
  obtain ⟨channel, queue, idle⟩ := quiet.resting sound prompt slots unstopped
  cases phase : p.phase with
  | stopped => exact absurd phase unstopped
  | drained => rfl
  | active =>
      have deaf : p.listening = false := by
        have stuck := quiet.receive
        cases listening : p.listening with
        | false => rfl
        | true => simp [step?, phase, channel, listening, gone] at stuck
      -- So everything is done, and the dispatcher would not be there any more.
      exact absurd ⟨deaf, queue, idle⟩ (watchful phase)

/-- A pool that its owners have left comes to rest only with its dispatcher gone. -/
theorem run?_rests {concurrency timeout : Nat} {starts : Nat → Bool} {moves : List PoolMove}
    (hstart : start concurrency timeout starts = .ok p) (h : p.run? moves = some q)
    (gone : q.owned = false) (unstopped : q.phase ≠ .stopped) (quiet : q.Quiet) :
    q.phase = .drained := by
  have slots : q.slots ≠ [] := by
    have length := (run?_length_slots h).trans (start_length_slots hstart)
    rw [← List.length_pos_iff, length]
    exact Nat.pos_of_ne_zero (start_eq_ok hstart).1
  exact quiet.drained (run?_sound hstart h) (run?_prompt hstart h) (run?_watchful hstart h) slots
    gone unstopped

theorem run?_append {moves more : List PoolMove} :
    p.run? (moves ++ more) = (p.run? moves).bind fun q => q.run? more := by
  induction moves generalizing p with
  | nil => rfl
  | cons move rest ih =>
      simp only [List.cons_append, run?, Option.bind_assoc, ih]

/-- **How a pool ends by itself.**  A pool that was stopped has ended in another way, and has
another phase. -/
structure Departs (p : Pool) : Prop where
  /-- The dispatcher leaves only when all owners have left, nothing is in the channel, nothing in
  the queue, and no slot works or drains. -/
  done : p.phase = .drained → p.owned = false ∧ p.channel = [] ∧ p.Finished
  /-- By then all owners were told what became of their tasks, and none that the pool is
  closed. -/
  told : p.phase = .drained → (∀ call, p.starts call = true) → ∀ ticket < p.payloads.length,
    (∃ output, p.answer? ticket = some (.ok output)) ∨
      (∃ message, p.answer? ticket = some (.error (.failed message))) ∨
      p.answer? ticket = some (.error (.timeout p.timeout))
  /-- What was told then is all that is ever told. -/
  final : p.phase = .drained → ∀ moves r, p.run? moves = some r →
    r.phase = .drained ∧ r.payloads = p.payloads ∧ r.answers = p.answers
  /-- Unless it is stopped, the dispatcher is gone as soon as everything is done. -/
  prompt : p.phase ≠ .stopped → (p.phase = .drained ↔ p.Finished)
  /-- So it leaves at the end of the first turn in which everything gets done, and at no other
  time. -/
  leaves : ∀ move r, p.phase = .active → p.step? move = some r → r.phase ≠ .stopped →
    ¬ p.Finished ∧ (r.phase = .drained ↔ r.Finished) ∧
      (r.phase = .drained → move = .receive ∨ move = .attend)
  /-- When all owners have left the pool does not rest before. -/
  rests : p.owned = false → p.phase ≠ .stopped → p.Quiet → p.phase = .drained
  /-- And it comes to rest, whatever the transform. -/
  ends : p.owned = false → p.phase ≠ .stopped → ∀ transform : String → Report,
    ∃ moves r, p.run? moves = some r ∧ r.phase = .drained ∧
      ∀ entry ∈ r.reports, entry ∈ p.reports ∨ entry.2 = transform entry.1.payload

/-- **A pool ends by itself when everything is done, and then at once.**  Once its owners have left
it can always come to that point, and it does not rest before. -/
theorem run?_departs {concurrency timeout : Nat} {starts : Nat → Bool} {moves : List PoolMove}
    (hstart : start concurrency timeout starts = .ok p) (h : p.run? moves = some q) :
    Departs q := by
  have sound := run?_sound hstart h
  have watchful := run?_watchful hstart h
  refine
    { done := fun left => ?_
      told := fun left staffed ticket given => sound.told (run?_founded hstart h) left staffed given
      final := fun left more r later => run?_after_drained later sound.woundUp left
      prompt := sound.drained_iff watchful
      leaves := fun move r active first unstopped => ?_
      rests := run?_rests hstart h
      ends := fun gone unstopped transform => ?_ }
  · obtain ⟨nobody, channel⟩ := sound.woundUp.deaf (sound.woundUp.done left).1
    exact ⟨nobody, channel, sound.woundUp.finished left⟩
  · have iff := (step?_sound first sound).drained_iff (step?_watchful first watchful) unstopped
    refine ⟨watchful active, iff, fun left => ?_⟩
    rcases step?_drained first left with before | mine
    · rw [active] at before
      cases before
    · exact mine
  · -- Left to itself the pool becomes quiet, and a quiet pool without owners has no dispatcher
    -- left.
    obtain ⟨more, r, later, quiet, -, unstopped', reports⟩ := exists_quiet transform q
    have whole : p.run? (moves ++ more) = some r := by rw [run?_append, h, Option.bind_some, later]
    have gone' : r.owned = false :=
      run?_induction (P := fun r => r.owned = false) later gone Change.unowned
    exact ⟨more, r, later, run?_rests hstart whole gone' (unstopped' unstopped) quiet, reports⟩

/-- A run in which the only owner leaves while one task is overrun and another waits. -/
def deserted : List PoolMove :=
  [.submit "slow", .submit "quick", .receive, .receive, .begin 0, .expire ⟨0, 0⟩, .attend, .leave,
    .receive, .finish 0 (.ok "late"), .attend, .begin 0, .finish 0 (.ok "in time"), .attend]

/-- The dispatcher stays for the task that waits, and leaves when it is done. -/
theorem deserted_departs :
    ∃ p q, start 1 30 = .ok p ∧ p.run? deserted = some q ∧ Departs q ∧ q.phase = .drained ∧
      (p.run? deserted.dropLast).map Pool.phase = some .active ∧
      q.answers = [(0, .error (.timeout 30)), (1, .ok "in time")] := by
  have starts : start 1 30 = .ok solo := rfl
  have ends : ((solo.run? deserted).map fun q => (q.phase, q.answers)) =
      some (.drained, [(0, .error (.timeout 30)), (1, .ok "in time")]) := rfl
  obtain ⟨q, run, same⟩ := Option.map_eq_some_iff.mp ends
  obtain ⟨phase, answers⟩ := Prod.mk.inj same
  exact ⟨solo, q, starts, run, run?_departs starts run, phase, rfl, answers⟩

end Pool

end Decipher
