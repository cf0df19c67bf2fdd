import Decipher.Pipeline.Stage

/-!
# A call in one piece

A call that nobody interrupts takes its steps one after another (`Stage.complete_step`): it
looks for what it needs in one place after the other and goes on from the first thing that it
finds.  Each of these beginnings is a function of its own, which says at once what the steps come
to one by one.

* `Services.fromText`, `Services.fromSource`, `Services.fromLoader`: the call from a text, from a
  source, and with nothing in hand.
* `Services.fromKey`: the call from a key, when it looks into the three caches.
* `Services.solve_eq`: the whole call.

The equations hold for any services, with caches in memory or on disk, that log what they do or
not.  So what is proved of one kind of services by them holds of the calls themselves, and not of a
second account of them: the stages stay the definition of what a call is, since other calls may
come in between two of them.
-/

namespace Decipher

/-! ## Step by step -/

namespace Stage

variable {σ : Type}

theorem complete_finished (services : Services σ) (store : σ) (solution : Solution) :
    complete services store (.finished solution) = (solution, store) := by
  rw [complete]
  rfl

/-- A call that has not ended comes to what it comes to one step later.  This is how the equations
below are proved: the stage they start from is taken apart step by step until it is one that has an
equation of its own. -/
theorem complete_step (services : Services σ) (store : σ) {stage : Stage}
    (going : stage.solution? = none) :
    complete services store stage =
      complete services (stage.step services store).2 (stage.step services store).1 := by
  rw [complete]
  split
  · rename_i ended
    rw [going] at ended
    cases ended
  · rfl

end Stage

/-! ## At once -/

namespace Services

variable {σ : Type} (services : Services σ) (store : σ) (key : CacheKey)

/-- What a call with a preprocessed text comes to.  From here on there is no other way to an answer,
and nothing is run. -/
def fromText (text : String) : Solution × σ :=
  match SolverSet.ofProgramText text with
  | .error e => (.error (.tree e), store)
  | .ok none => (.ok none, store)
  | .ok (some solvers) =>
    (.ok (some solvers), services.solvers.set store key.digest solvers)

/-- What a call with a source comes to.  It is the one place at which a transform runs. -/
def fromSource (source : String) : Solution × σ :=
  match services.execute store source with
  | (.error e, store) => (.error (.preprocess e), store)
  | (.ok text, store) =>
    services.fromText (services.preprocessed.set store key.digest text) key text

/-- What a call comes to that has to load its source.  It is the one place at which the loader is
asked. -/
def fromLoader : Solution × σ :=
  match services.load store key with
  | (.error e, store) => (.error (.load e), store)
  | (.ok source, store) =>
    services.fromSource (services.raw.set store key.digest source) key source

/-- What a call comes to that knows its key. -/
def fromKey : Solution × σ :=
  match services.solvers.get? store key.digest with
  | some solvers => (.ok (some solvers), store)
  | none =>
    match services.preprocessed.get? store key.digest with
    | some text => services.fromText store key text
    | none =>
      match services.raw.get? store key.digest with
      | some source => services.fromSource store key source
      | none => services.fromLoader store key

open Stage

/-- From a text on, a call has at most two steps: it looks for solvers, and keeps those it finds. -/
theorem complete_extracting (text : String) :
    complete services store (.extracting key text) = services.fromText store key text := by
  rw [complete_step _ _ rfl, fromText]
  simp only [step]
  cases SolverSet.ofProgramText text with
  | error e => exact complete_finished ..
  | ok found =>
    cases found with
    | none => exact complete_finished ..
    | some solvers =>
      rw [complete_step _ _ rfl]
      exact complete_finished ..

/-- What is answered from a text does not depend on what is kept of it. -/
theorem fromText_fst (text : String) :
    (services.fromText store key text).1 = (SolverSet.ofProgramText text).mapError .tree := by
  rw [fromText]
  cases SolverSet.ofProgramText text with
  | error e => rfl
  | ok found => cases found <;> rfl

/-- From a source on, it has the source preprocessed and goes on from the text, which it keeps. -/
theorem complete_preprocessing (source : String) :
    complete services store (.preprocessing key source) =
      services.fromSource store key source := by
  rw [complete_step _ _ rfl, fromSource]
  simp only [step]
  obtain ⟨answer, after⟩ := services.execute store source
  cases answer with
  | error e => exact complete_finished ..
  | ok text =>
    rw [complete_step _ _ rfl]
    exact services.complete_extracting _ key text

theorem complete_loading :
    complete services store (.loading key) = services.fromLoader store key := by
  rw [complete_step _ _ rfl, fromLoader]
  simp only [step]
  obtain ⟨answer, after⟩ := services.load store key
  cases answer with
  | error e => exact complete_finished ..
  | ok source =>
    rw [complete_step _ _ rfl]
    exact services.complete_preprocessing _ key source

/-- From its key on, a call looks into the caches one after another, the last product first, and
goes on from the first thing that it finds there. -/
theorem complete_seekingSolvers :
    complete services store (.seekingSolvers key) = services.fromKey store key := by
  rw [complete_step _ _ rfl, fromKey]
  simp only [step]
  cases services.solvers.get? store key.digest with
  | some solvers => exact complete_finished ..
  | none =>
    rw [complete_step _ _ rfl]
    simp only [step]
    cases services.preprocessed.get? store key.digest with
    | some text => exact services.complete_extracting store key text
    | none =>
      rw [complete_step _ _ rfl]
      simp only [step]
      cases services.raw.get? store key.digest with
      | some source => exact services.complete_preprocessing store key source
      | none => exact services.complete_loading store key

/-- **A call in one piece.**  It fails at once if its identity has no key, and else comes to what
its key calls for. -/
theorem solve_eq (identity : String) :
    services.solve store identity =
      match services.resolve identity with
      | .error e => (.error (.resolution e), store)
      | .ok key => services.fromKey store key := by
  rw [solve, complete_step _ _ rfl]
  simp only [step]
  cases services.resolve identity with
  | error e => exact complete_finished ..
  | ok key => exact services.complete_seekingSolvers store key

end Services

end Decipher
