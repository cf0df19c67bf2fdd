import Decipher.Pipeline.Disk
import Decipher.Proofs.Pipeline.Course
import Decipher.Proofs.Results

/-!
# Calls on disk

What a call of a new process does depends on which of its entries are there: it answers from the
entry of solvers, or extracts from the preprocessed text, or has to preprocess its source.

* `DiskStore.source`: what a call takes for the source of a script.
* `fromKey_of_solvers`, `fromKey_of_text`, `fromKey_of_none`: what a call does that finds solvers,
  or a text, or nothing.
* `fromKey_eq_ok_iff`, `files_of_fromKey`: the solvers that it finds then, and what it keeps.

A process starts with empty memory, so that `DiskStore.raw` spares a load only to calls of the same
process.  Entries are looked for by `FileCache.get?`, for which an entry that cannot be read is no
entry; so `fromKey_of_none` speaks of missing entries and of spoilt ones alike, and
`Proofs.Pipeline.Miss` makes the most of it.
-/

namespace Decipher

namespace DiskStore

/-- What a call takes for the source of a script: what is in memory, or else what its file
holds. -/
def source (store : DiskStore) (key : CacheKey) : Except LoadError String :=
  match store.raw.get? key.digest with
  | some source => .ok source
  | none => store.files.loadSource key.sourcePath

variable {dir identity : String} {execute : String → Except PoolError String}
  {key : CacheKey} {s : SolverSet} {text : String}

/-- A call goes on from the key of its identity. -/
theorem solve_of_named (named : CacheKey.resolve dir identity = .ok key) (store : DiskStore) :
    (services dir execute).solve store identity = (services dir execute).fromKey store key := by
  rw [Services.solve_eq]
  simp only [services, named]

variable (store : DiskStore) (key : CacheKey)

/-! ### With an entry -/

/-- A call that finds solvers answers them. -/
theorem fromKey_of_solvers (there : (solverCache dir).get? store.files key.digest = some s) :
    (services dir execute).fromKey store key = (.ok (some s), store) := by
  rw [Services.fromKey]
  simp only [services, layer, there]

/-- A call that finds no solvers but a text answers from the text. -/
theorem fromKey_of_text (missing : (solverCache dir).get? store.files key.digest = none)
    (there : (preprocessedCache dir).get? store.files key.digest = some text) :
    (services dir execute).fromKey store key = (services dir execute).fromText store key text := by
  rw [Services.fromKey]
  simp only [services, layer, missing, there]

/-- A call that finds solvers in a text keeps them, and keeps nothing else: the text was there
before, and there is no reason to write it again. -/
theorem files_of_fromText
    (ends : ((services dir execute).fromText store key text).1 = .ok (some s)) :
    ((services dir execute).fromText store key text).2.files =
      (solverCache dir).set store.files key.digest s := by
  rw [Services.fromText_fst] at ends
  rw [Services.fromText]
  cases found : SolverSet.ofProgramText text with
  | error e =>
    rw [found] at ends
    cases ends
  | ok solvers =>
    rw [found] at ends
    cases ends
    rfl

/-! ### Without entries -/

/-- With a source in hand, what a call answers does not depend on its store: only what it keeps
does. -/
theorem fromSource_fst (source : String) :
    ((services dir execute).fromSource store key source).1 =
      (execute source).mapError .preprocess >>= fun text =>
        (SolverSet.ofProgramText text).mapError .tree := by
  rw [Services.fromSource]
  simp only [services]
  cases execute source with
  | error e => rfl
  | ok text => exact Services.fromText_fst ..

/-- A call that finds no solvers and no text answers from the source alone. -/
theorem fromKey_of_none (missing : (solverCache dir).get? store.files key.digest = none)
    (missing' : (preprocessedCache dir).get? store.files key.digest = none) :
    ((services dir execute).fromKey store key).1 =
      (store.source key).mapError .load >>= fun source =>
        (execute source).mapError .preprocess >>= fun text =>
          (SolverSet.ofProgramText text).mapError .tree := by
  rw [Services.fromKey, DiskStore.source]
  simp only [services, layer, missing, missing']
  cases store.raw.get? key.digest with
  | some source => exact fromSource_fst _ _ source
  | none =>
    dsimp only
    rw [Services.fromLoader]
    cases loads : store.files.loadSource key.sourcePath with
    | error e =>
      simp only [loads]
      rfl
    | ok source =>
      simp only [loads]
      exact fromSource_fst _ _ source

/-- It finds the solvers that are in what the source is preprocessed to. -/
theorem fromKey_eq_ok_iff (missing : (solverCache dir).get? store.files key.digest = none)
    (missing' : (preprocessedCache dir).get? store.files key.digest = none) :
    ((services dir execute).fromKey store key).1 = .ok (some s) ↔
      ∃ source text, store.source key = .ok source ∧ execute source = .ok text ∧
        SolverSet.ofProgramText text = .ok (some s) := by
  rw [fromKey_of_none store key missing missing']
  simp only [bind_eq_ok, mapError_eq_ok, exists_and_left]

/-- A call that finds solvers without any entry keeps them, and before them the text that they are
in.  What it answers does not depend on whether the two can be written. -/
theorem files_of_fromKey (missing : (solverCache dir).get? store.files key.digest = none)
    (missing' : (preprocessedCache dir).get? store.files key.digest = none)
    (ends : ((services dir execute).fromKey store key).1 = .ok (some s)) :
    ∃ source text, store.source key = .ok source ∧ execute source = .ok text ∧
      SolverSet.ofProgramText text = .ok (some s) ∧
      ((services dir execute).fromKey store key).2.files =
        (solverCache dir).set ((preprocessedCache dir).set store.files key.digest text)
          key.digest s := by
  obtain ⟨source, text, loads, runs, found⟩ :=
    (fromKey_eq_ok_iff store key missing missing').mp ends
  refine ⟨source, text, loads, runs, found, ?_⟩
  rw [DiskStore.source] at loads
  rw [Services.fromKey]
  cases remembered : store.raw.get? key.digest with
  | some source' =>
    rw [remembered] at loads
    cases loads
    simp only [services, layer, missing, missing', remembered, Services.fromSource,
      Services.fromText, runs, found]
  | none =>
    rw [remembered] at loads
    dsimp only at loads
    simp only [services, layer, missing, missing', remembered, Services.fromLoader, loads,
      Services.fromSource, Services.fromText, runs, found]

end DiskStore

end Decipher
