import Decipher.Pipeline.Traffic
import Decipher.Proofs.Pipeline.Course
import Decipher.Proofs.Results

/-!
# Calls that are left alone

Traffic moves calls step by step, and other calls and evictions come between the steps.  A call
that is let go on while the others stay where they are takes no notice of the moves: it comes to
what it comes to in one piece.  This is how a sequence of moves is read, and what a call finds on
its way is then a matter of the caches as they stand when it begins.

* `Traffic.run?_trans`: moves after others.
* `Traffic.run?_alone`: a call that is let go on comes to its end.  The induction is on the moves,
  with the traffic general, since each step changes the store and the call.
* `Origin.solve_of_solvers`, `Origin.solve_of_text`, `Origin.solve_of_absent`: what it comes to, by
  the first layer that has something for it.
* `Traffic.run?_turnedAway`: a call that has no text goes to the pool, which may turn it away.
* `Traffic.run?_layers`: calls that are answered from one layer after another, and count how often
  a script is loaded and preprocessed.

Nothing is said here of calls whose steps alternate.  They may load a script twice, and what they
find depends on who comes first.
-/

namespace Decipher

/-! ## From the first layer that has something -/

namespace Origin

variable {o : Origin} {identity source text : String} {key : CacheKey} {s : MemoryStore}
  {solvers : SolverSet} (named : CacheKey.resolve o.dir identity = .ok key)

include named

/-- Solvers that are there are the answer, and nothing changes. -/
theorem solve_of_solvers (there : s.solvers.get? key.digest = some solvers) :
    (o.services none).solve s identity = (.ok (some solvers), s) := by
  rw [Services.solve_eq]
  simp only [services, MemoryStore.serve, named, Services.fromKey, there]

/-- A text that is there is not made again, so that no source is needed.  The solvers in it are
kept for the next call. -/
theorem solve_of_text (gone : s.solvers.get? key.digest = none)
    (there : s.preprocessed.get? key.digest = some text)
    (found : SolverSet.ofProgramText text = .ok (some solvers)) :
    (o.services none).solve s identity =
      (.ok (some solvers), { s with solvers := s.solvers.set key.digest solvers }) := by
  rw [Services.solve_eq]
  simp only [services, MemoryStore.serve, named, Services.fromKey, gone, there, Services.fromText,
    found]

/-- A call that finds nothing fills all three layers, and is the only one that loads. -/
theorem solve_of_absent (gone : s.solvers.get? key.digest = none)
    (gone' : s.preprocessed.get? key.digest = none) (gone'' : s.raw.get? key.digest = none)
    (loaded : o.source key = .ok source) (made : o.preprocess source = .ok text)
    (found : SolverSet.ofProgramText text = .ok (some solvers)) :
    (o.services none).solve s identity =
      (.ok (some solvers),
        { s with
          raw := s.raw.set key.digest source
          preprocessed := s.preprocessed.set key.digest text
          solvers := s.solvers.set key.digest solvers
          loads := s.loads + 1
          runs := s.runs + 1 }) := by
  rw [Origin.source, mapError_eq_ok] at loaded
  rw [Origin.preprocess, mapError_eq_ok] at made
  rw [Services.solve_eq]
  simp only [services, MemoryStore.serve, named, Services.fromKey, gone, gone', gone'',
    Services.fromLoader, loaded, Services.fromSource, made, Services.fromText, found]

end Origin

/-! ## One call at a time -/

namespace Stage

variable {services : Services MemoryStore} {s : MemoryStore} {stage : Stage}

/-- A step brings a call closer to its end, unless it has come to it. -/
theorem stepsLeft_step_le {left : Nat} (enough : stage.stepsLeft ≤ left + 1) :
    (stage.step services s).1.stepsLeft ≤ left := by
  cases ended : stage.solution? with
  | none =>
      have less := stepsLeft_step_lt services s stage ended
      omega
  | some solution =>
      cases stage with
      | finished => exact Nat.zero_le _
      | _ => cases ended

/-- What a call comes to it comes to after any step, also when it has come to its end. -/
theorem complete_of_step (services : Services MemoryStore) (s : MemoryStore) (stage : Stage) :
    stage.complete services s =
      (stage.step services s).1.complete services (stage.step services s).2 := by
  cases ended : stage.solution? with
  | none => exact complete_step services s ended
  | some solution =>
      cases stage with
      | finished => rfl
      | _ => cases ended

end Stage

namespace Traffic

variable {o : Origin} {t u v : Traffic} {moves more : List TrafficMove}

theorem run?_append (moves more : List TrafficMove) :
    t.run? o (moves ++ more) = (t.run? o moves).bind fun u => u.run? o more := by
  induction moves generalizing t with
  | nil => rfl
  | cons move rest ih => simp only [List.cons_append, run?, ih, Option.bind_assoc]

/-- Moves after others. -/
theorem run?_trans (first : t.run? o moves = some u) (further : u.run? o more = some v) :
    t.run? o (moves ++ more) = some v := by
  rw [run?_append, first]
  exact further

/-- **A call that is let go on comes to its end**, for which it needs no more steps than its stage
has left.  The other calls stay where they are meanwhile. -/
theorem run?_alone {index : Nat} {c : Call} {steps : Nat} (there : t.calls[index]? = some c)
    (enough : c.stage.stepsLeft ≤ steps) :
    t.run? o (List.replicate steps (.advance index none)) =
      some
        { store := (c.stage.complete (o.services none) t.store).2
          calls := t.calls.set index
            { c with
              stage := .finished (c.stage.complete (o.services none) t.store).1 } } := by
  obtain ⟨bound, rfl⟩ := List.getElem?_eq_some_iff.mp there
  induction steps generalizing t with
  | zero =>
      cases ended : t.calls[index].stage with
      | finished solution =>
          rw [Stage.complete_finished, ← ended, List.set_getElem_self]
          rfl
      | _ => simp [ended, Stage.stepsLeft] at enough
  | succ steps ih =>
      -- One step is taken, and the rest is the run of the same call with one step less to go.
      let after : Traffic :=
        { store := (t.calls[index].advance o t.store none).2
          calls := t.calls.set index (t.calls[index].advance o t.store none).1 }
      have first : t.step? o (.advance index none) = some after := by
        simp only [step?, there]
        rfl
      have bound' : index < after.calls.length := by simpa [after] using bound
      have now : after.calls[index] = (t.calls[index].advance o t.store none).1 := by
        simp [after]
      have rest := @ih after bound' (List.getElem?_eq_getElem bound')
        (by rw [now]; exact Stage.stepsLeft_step_le enough)
      rw [List.replicate_succ, run?, first, Option.bind_some, rest, now,
        Stage.complete_of_step (o.services none) t.store]
      simp [after, Call.advance]

variable {identity other source text : String} {key : CacheKey} {s : MemoryStore}
  {solvers : SolverSet} {solution : Solution}

/-- A call that nobody interrupts comes to what it would come to if it were the only one. -/
theorem run?_solve {index : Nat} (there : t.calls[index]? = some (.ask identity))
    (ends : (o.services none).solve t.store identity = (solution, s)) :
    t.run? o (List.replicate 10 (.advance index none)) =
      some
        { store := s
          calls := t.calls.set index { identity, stage := .finished solution } } := by
  rw [Services.solve] at ends
  refine (run?_alone there (Nat.le_refl 10)).trans ?_
  rw [Call.ask, ends]

/-- A call that the pool turns away has looked into all three caches before, and leaves them as
they were. -/
theorem run?_turnedAway {index : Nat} {e : PoolError} (turned : e.isRejection = true)
    (there : t.calls[index]? = some (.ask identity))
    (named : CacheKey.resolve o.dir identity = .ok key)
    (gone : t.store.solvers.get? key.digest = none)
    (gone' : t.store.preprocessed.get? key.digest = none)
    (kept : t.store.raw.get? key.digest = some source) :
    t.run? o (List.replicate 4 (.advance index none) ++ [.advance index (some e)]) =
      some
        { store := { t.store with runs := t.store.runs + 1 }
          calls := t.calls.set index
            { identity, stage := .finished (.error (.preprocess e)), rejection := some e } } := by
  obtain ⟨bound, asked⟩ := List.getElem?_eq_some_iff.mp there
  simp [List.replicate, run?, step?, bound, asked, Call.ask, Call.admits, Call.advance,
    Stage.step, Origin.services, MemoryStore.serve, named, gone, gone', kept, turned]

/-! ### One layer after another -/

/-- Four calls for one script.  The first finds nothing, and the others each find one layer less
than the one before, for what lies above it is evicted.  The pool turns the last one away. -/
def layers (identity other digest : String) : List TrafficMove :=
  [.ask identity, .ask other, .ask identity, .ask other] ++
    (List.replicate 10 (.advance 0 none) ++
    (List.replicate 10 (.advance 1 none) ++
    ([.evict digest .solvers] ++
    (List.replicate 10 (.advance 2 none) ++
    ([.evict digest .solvers, .evict digest .preprocessed] ++
    (List.replicate 4 (.advance 3 none) ++ [.advance 3 (some (.timeout 5))]))))))

/-- A store when a call has left in it all that it found. -/
def filled (digest source text : String) (solvers : SolverSet) : MemoryStore where
  raw := .set .empty digest source
  preprocessed := .set .empty digest text
  solvers := .set .empty digest solvers
  loads := 1
  runs := 1

/-- **Each layer saves what lies below it.**  The four calls load a script once.  It goes to the
pool twice, for the last of them finds nothing but the source, and is told that its task was turned
away; the others have the same answer. -/
theorem run?_layers (named : CacheKey.resolve o.dir identity = .ok key)
    (named' : CacheKey.resolve o.dir other = .ok key)
    (loaded : o.source key = .ok source) (made : o.preprocess source = .ok text)
    (found : SolverSet.ofProgramText text = .ok (some solvers)) :
    ∃ t, ({} : Traffic).run? o (layers identity other key.digest) = some t ∧
      t.calls.map (fun c => (c.stage.solution?, c.rejection)) =
        [(some (.ok (some solvers)), none), (some (.ok (some solvers)), none),
          (some (.ok (some solvers)), none),
          (some (.error (.preprocess (.timeout 5))), some (.timeout 5))] ∧
      t.store.loads = 1 ∧ t.store.runs = 2 := by
  have first : (o.services none).solve {} identity =
      (.ok (some solvers), filled key.digest source text solvers) :=
    Origin.solve_of_absent named rfl rfl rfl loaded made found
  have second : (o.services none).solve (filled key.digest source text solvers) other =
      (.ok (some solvers), filled key.digest source text solvers) :=
    Origin.solve_of_solvers named' (by simp [filled])
  have third := Origin.solve_of_text
    (s := (filled key.digest source text solvers).evict key.digest .solvers) named
    (by simp [filled, MemoryStore.evict]) (by simp [filled, MemoryStore.evict]) found
  -- The last call finds the source alone, whatever was put back meanwhile.
  refine ⟨_, run?_trans rfl <| run?_trans (run?_solve rfl first) <|
    run?_trans (run?_solve rfl second) <| run?_trans rfl <| run?_trans (run?_solve rfl third) <|
    run?_trans rfl <| @run?_turnedAway _ _ _ source _ 3 _ rfl rfl named' ?_ ?_ ?_, rfl, rfl, rfl⟩
  all_goals simp [filled, MemoryStore.evict]

end Traffic

end Decipher
