import Decipher.Pipeline.Error

/-!
# Solving in stages

A call for the solvers of a script goes through stages, and in each it takes one step: it
asks a cache, loads a source, has it preprocessed, or puts something into a cache.  What it
has found so far is part of the stage, so that a call can be stopped between any two steps
and other calls can take theirs.

The three layers of caches hold sources, preprocessed sources and solvers.  A script
without solvers leaves nothing in the last.
-/

namespace Decipher

/-- A layer of caches as part of a store. -/
structure Layer (σ α : Type) where
  get? : σ → String → Option α
  set : σ → String → α → σ

/-- What a call asks for on its way.  What is asked may change the store. -/
structure Services (σ : Type) where
  resolve : String → Except ResolutionError CacheKey
  load : σ → CacheKey → Except LoadError String × σ
  /-- Has a source preprocessed. -/
  execute : σ → String → Except PoolError String × σ
  raw : Layer σ String
  preprocessed : Layer σ String
  solvers : Layer σ SolverSet

/-- What a call for solvers comes to. -/
abbrev Solution := Except SolveError (Option SolverSet)

/-- What a call will do next. -/
inductive Stage
  | resolving (identity : String)
  | seekingSolvers (key : CacheKey)
  | seekingPreprocessed (key : CacheKey)
  | seekingRaw (key : CacheKey)
  | loading (key : CacheKey)
  | keepingRaw (key : CacheKey) (source : String)
  | preprocessing (key : CacheKey) (source : String)
  | keepingPreprocessed (key : CacheKey) (text : String)
  | extracting (key : CacheKey) (text : String)
  | keepingSolvers (key : CacheKey) (solvers : SolverSet)
  | finished (solution : Solution)

namespace Stage

variable {σ : Type}

/-- Takes one step. -/
def step (services : Services σ) (store : σ) : Stage → Stage × σ
  | resolving identity =>
    match services.resolve identity with
    | .error e => (finished (.error (.resolution e)), store)
    | .ok key => (seekingSolvers key, store)
  | seekingSolvers key =>
    match services.solvers.get? store key.digest with
    | some solvers => (finished (.ok (some solvers)), store)
    | none => (seekingPreprocessed key, store)
  | seekingPreprocessed key =>
    match services.preprocessed.get? store key.digest with
    | some text => (extracting key text, store)
    | none => (seekingRaw key, store)
  | seekingRaw key =>
    match services.raw.get? store key.digest with
    | some source => (preprocessing key source, store)
    | none => (loading key, store)
  | loading key =>
    match services.load store key with
    | (.error e, store) => (finished (.error (.load e)), store)
    | (.ok source, store) => (keepingRaw key source, store)
  | keepingRaw key source =>
    (preprocessing key source, services.raw.set store key.digest source)
  | preprocessing key source =>
    match services.execute store source with
    | (.error e, store) => (finished (.error (.preprocess e)), store)
    | (.ok text, store) => (keepingPreprocessed key text, store)
  | keepingPreprocessed key text =>
    (extracting key text, services.preprocessed.set store key.digest text)
  | extracting key text =>
    match SolverSet.ofProgramText text with
    | .error e => (finished (.error (.tree e)), store)
    | .ok none => (finished (.ok none), store)
    | .ok (some solvers) => (keepingSolvers key solvers, store)
  | keepingSolvers key solvers =>
    (finished (.ok (some solvers)), services.solvers.set store key.digest solvers)
  | finished solution => (finished solution, store)

/-- The steps that a call takes from here on at most. -/
def stepsLeft : Stage → Nat
  | resolving _ => 10
  | seekingSolvers _ => 9
  | seekingPreprocessed _ => 8
  | seekingRaw _ => 7
  | loading _ => 6
  | keepingRaw _ _ => 5
  | preprocessing _ _ => 4
  | keepingPreprocessed _ _ => 3
  | extracting _ _ => 2
  | keepingSolvers _ _ => 1
  | finished _ => 0

/-- What a call came to, if it is over. -/
def solution? : Stage → Option Solution
  | finished solution => some solution
  | _ => none

theorem stepsLeft_step_lt (services : Services σ) (store : σ) (stage : Stage)
    (h : stage.solution? = none) :
    (stage.step services store).1.stepsLeft < stage.stepsLeft := by
  cases stage with
  | finished => cases h
  | _ =>
    simp only [step]
    (try split) <;> simp [stepsLeft]

/-- Takes all steps that are left. -/
def complete (services : Services σ) (store : σ) (stage : Stage) : Solution × σ :=
  match _h : stage.solution? with
  | some solution => (solution, store)
  | none =>
    complete services (stage.step services store).2 (stage.step services store).1
termination_by stage.stepsLeft
decreasing_by exact stepsLeft_step_lt services store stage _h

end Stage

/-- The solvers of a script, asked for by its identity. -/
def Services.solve {σ : Type} (services : Services σ) (store : σ) (identity : String) :
    Solution × σ :=
  Stage.complete services store (.resolving identity)

end Decipher
