import Decipher.Proofs.Pipeline.Alone
import Decipher.Proofs.Solver.Extraction

/-!
# Caches do not show

A call may find its solvers in a cache, or a preprocessed source, or a source, or nothing.
Other calls fill the caches at the same time, and entries come and go.  None of this shows:
a call that comes to an end comes to what `Origin.solve` says, which knows no caches.

* `Origin.Agrees`: a store holds nothing but what would be found out without it.
* `Knows`: what a call has in hand at a stage is what it would have without a store.
* `Knows.step`: a step keeps both.
* `run?_transparent`: so any number of calls, in any order of their steps and with any
  evictions, keep the store right and end as they would alone, but for those whose tasks the
  pool turns away.

The invariant has a part for the store and a part for each call.  Neither goes without the other: a
call puts into the store what it has in hand, and takes into its hands what is in the store.  That
a source always loads as the same, and is preprocessed as the same, is in `Origin`, whose loader
and transform are functions of the key and of the source.  Where the answers change from call to
call, `Proofs.Pipeline.Economy` tells what becomes of the calls.

Other calls come in at any place, so what a call found missing may be there by the time that it
writes.  It then writes the same again, as both writers know what is right.

* `shared_transparent`: four calls for one script, which find their answers in the caches for
  solvers, for texts and for sources while others are evicted (`Proofs.Pipeline.Alone`), and one of
  which is turned away.
-/

namespace Decipher

/-! ## Caches with right entries -/

namespace MemoryCache

variable {α : Type} {P : String → α → Prop} {c : MemoryCache α}

/-- That all entries of a cache have a property. -/
def All (P : String → α → Prop) (c : MemoryCache α) : Prop :=
  ∀ digest value, c.get? digest = some value → P digest value

theorem all_empty (P : String → α → Prop) : All P empty := by
  intro digest value found
  cases found

/-- A property stays that of all entries if the new one has it, whatever it takes the place of. -/
theorem All.set (all : All P c) {digest : String} {value : α} (new : P digest value) :
    All P (c.set digest value) := by
  intro other found there
  rw [get?_set] at there
  split at there
  · rename_i same
    cases there
    rw [same]
    exact new
  · exact all other found there

theorem All.erase (all : All P c) (digest : String) : All P (c.erase digest) := by
  intro other found there
  rw [get?_erase] at there
  split at there
  · cases there
  · exact all other found there

end MemoryCache

/-! ## Scripts without a store -/

/-- A key is known by its digest. -/
theorem CacheKey.eq_ofDigest {dir identity : String} {key : CacheKey}
    (named : CacheKey.resolve dir identity = .ok key) : CacheKey.ofDigest dir key.digest = key := by
  unfold CacheKey.resolve at named
  split at named
  · cases named
  · cases named
    rfl

namespace Origin

variable {o : Origin} {identity : String} {key : CacheKey}

theorem solve_of_named (named : CacheKey.resolve o.dir identity = .ok key) :
    o.solve identity = o.solution key := by
  rw [solve, named]
  rfl

theorem solution_of_text {text : String} (made : o.text key = .ok text) :
    o.solution key = extract text := by
  rw [solution, made]
  rfl

theorem text_of_source {source : String} (loaded : o.source key = .ok source) :
    o.text key = o.preprocess source := by
  rw [text, loaded]
  rfl

/-- **A store agrees with where its contents come from.**  Every entry is the value that is
found out for its digest without a store. -/
structure Agrees (o : Origin) (s : MemoryStore) : Prop where
  raw : s.raw.All fun digest source => o.source (.ofDigest o.dir digest) = .ok source
  preprocessed : s.preprocessed.All fun digest text => o.text (.ofDigest o.dir digest) = .ok text
  solvers : s.solvers.All fun digest solvers =>
    o.solution (.ofDigest o.dir digest) = .ok (some solvers)

theorem agrees_empty (o : Origin) : o.Agrees {} :=
  ⟨MemoryCache.all_empty _, MemoryCache.all_empty _, MemoryCache.all_empty _⟩

variable {s : MemoryStore}

/-! ### What is found -/

/-- A source that is found in a cache is the one that would be loaded. -/
theorem Agrees.source_eq (agrees : o.Agrees s)
    (named : CacheKey.resolve o.dir identity = .ok key) {source : String}
    (there : s.raw.get? key.digest = some source) :
    o.source key = .ok source := by
  rw [← CacheKey.eq_ofDigest named]
  exact agrees.raw key.digest source there

/-- A text that is found in a cache is the one that would be made. -/
theorem Agrees.text_eq (agrees : o.Agrees s)
    (named : CacheKey.resolve o.dir identity = .ok key) {text : String}
    (there : s.preprocessed.get? key.digest = some text) :
    o.text key = .ok text := by
  rw [← CacheKey.eq_ofDigest named]
  exact agrees.preprocessed key.digest text there

/-- Solvers that are found in a cache are those that would be extracted. -/
theorem Agrees.solution_eq (agrees : o.Agrees s)
    (named : CacheKey.resolve o.dir identity = .ok key) {solvers : SolverSet}
    (there : s.solvers.get? key.digest = some solvers) :
    o.solution key = .ok (some solvers) := by
  rw [← CacheKey.eq_ofDigest named]
  exact agrees.solvers key.digest solvers there

/-! ### What is kept -/

theorem Agrees.keepRaw (agrees : o.Agrees s)
    (named : CacheKey.resolve o.dir identity = .ok key) {source : String}
    (loaded : o.source key = .ok source) :
    o.Agrees { s with raw := s.raw.set key.digest source } := by
  rw [← CacheKey.eq_ofDigest named] at loaded
  exact ⟨agrees.raw.set loaded, agrees.preprocessed, agrees.solvers⟩

theorem Agrees.keepPreprocessed (agrees : o.Agrees s)
    (named : CacheKey.resolve o.dir identity = .ok key) {text : String}
    (made : o.text key = .ok text) :
    o.Agrees { s with preprocessed := s.preprocessed.set key.digest text } := by
  rw [← CacheKey.eq_ofDigest named] at made
  exact ⟨agrees.raw, agrees.preprocessed.set made, agrees.solvers⟩

/-- Solvers may be kept that are right for their key. -/
theorem Agrees.keepSolvers (agrees : o.Agrees s)
    (named : CacheKey.resolve o.dir identity = .ok key) {solvers : SolverSet}
    (found : o.solution key = .ok (some solvers)) :
    o.Agrees { s with solvers := s.solvers.set key.digest solvers } := by
  rw [← CacheKey.eq_ofDigest named] at found
  exact ⟨agrees.raw, agrees.preprocessed, agrees.solvers.set found⟩

/-- The counters of a store say nothing about its entries. -/
theorem Agrees.count (agrees : o.Agrees s) (loads runs : Nat) : o.Agrees { s with loads, runs } :=
  ⟨agrees.raw, agrees.preprocessed, agrees.solvers⟩

/-- Evictions do no harm: a store is right by what it holds and not by what it lacks. -/
theorem Agrees.evict (agrees : o.Agrees s) (digest : String) (layer : CacheLayer) :
    o.Agrees (s.evict digest layer) := by
  cases layer with
  | raw => exact ⟨agrees.raw.erase digest, agrees.preprocessed, agrees.solvers⟩
  | preprocessed => exact ⟨agrees.raw, agrees.preprocessed.erase digest, agrees.solvers⟩
  | solvers => exact ⟨agrees.raw, agrees.preprocessed, agrees.solvers.erase digest⟩

end Origin

/-! ## Calls on their way -/

/-- **What a call has in hand is right.**  At each stage it has the key of its identity, and
what it found or made so far is what there is to find or to make under this key. -/
inductive Knows (o : Origin) (identity : String) : Stage → Prop
  | resolving : Knows o identity (.resolving identity)
  | seekingSolvers (key : CacheKey) (named : CacheKey.resolve o.dir identity = .ok key) :
    Knows o identity (.seekingSolvers key)
  | seekingPreprocessed (key : CacheKey) (named : CacheKey.resolve o.dir identity = .ok key) :
    Knows o identity (.seekingPreprocessed key)
  | seekingRaw (key : CacheKey) (named : CacheKey.resolve o.dir identity = .ok key) :
    Knows o identity (.seekingRaw key)
  | loading (key : CacheKey) (named : CacheKey.resolve o.dir identity = .ok key) :
    Knows o identity (.loading key)
  | keepingRaw (key : CacheKey) (source : String)
      (named : CacheKey.resolve o.dir identity = .ok key) (loaded : o.source key = .ok source) :
    Knows o identity (.keepingRaw key source)
  | preprocessing (key : CacheKey) (source : String)
      (named : CacheKey.resolve o.dir identity = .ok key) (loaded : o.source key = .ok source) :
    Knows o identity (.preprocessing key source)
  | keepingPreprocessed (key : CacheKey) (text : String)
      (named : CacheKey.resolve o.dir identity = .ok key) (made : o.text key = .ok text) :
    Knows o identity (.keepingPreprocessed key text)
  | extracting (key : CacheKey) (text : String)
      (named : CacheKey.resolve o.dir identity = .ok key) (made : o.text key = .ok text) :
    Knows o identity (.extracting key text)
  | keepingSolvers (key : CacheKey) (solvers : SolverSet)
      (named : CacheKey.resolve o.dir identity = .ok key)
      (found : o.solution key = .ok (some solvers)) :
    Knows o identity (.keepingSolvers key solvers)
  | finished (solution : Solution) (right : solution = o.solve identity) :
    Knows o identity (.finished solution)

variable {o : Origin} {identity : String} {s : MemoryStore} {stage : Stage}

/-! ### Steps one by one -/

/-- That a step from a stage takes a call on as if there were no caches, and leaves the store as
right as it was. -/
def StepsRight (o : Origin) (identity : String) (s : MemoryStore) (stage : Stage) : Prop :=
  Knows o identity (stage.step (o.services none) s).1 ∧
    o.Agrees (stage.step (o.services none) s).2

namespace Origin.Agrees

variable {key : CacheKey} (agrees : o.Agrees s)

include agrees

/-- A call whose identity has no key fails, with any store and with none; any other goes on with its
key. -/
theorem resolves (identity : String) : StepsRight o identity s (.resolving identity) := by
  unfold StepsRight
  simp only [Stage.step, services, MemoryStore.serve]
  split
  · rename_i e unnamed
    refine ⟨.finished _ ?_, agrees⟩
    rw [solve, unnamed]
    rfl
  · rename_i key named
    exact ⟨.seekingSolvers key named, agrees⟩

variable (named : CacheKey.resolve o.dir identity = .ok key)

include named

/-- Solvers that are found in a cache are the answer at once. -/
theorem seeksSolvers : StepsRight o identity s (.seekingSolvers key) := by
  unfold StepsRight
  simp only [Stage.step, services, MemoryStore.serve]
  split
  · rename_i solvers there
    refine ⟨.finished _ ?_, agrees⟩
    rw [solve_of_named named, agrees.solution_eq named there]
  · exact ⟨.seekingPreprocessed key named, agrees⟩

/-- A text that is found is as good as one that is made, and none at all leaves the call to look for
a source. -/
theorem seeksPreprocessed : StepsRight o identity s (.seekingPreprocessed key) := by
  unfold StepsRight
  simp only [Stage.step, services, MemoryStore.serve]
  split
  · rename_i text there
    exact ⟨.extracting key text named (agrees.text_eq named there), agrees⟩
  · exact ⟨.seekingRaw key named, agrees⟩

/-- A source that is found is as good as one that is loaded, and none at all leaves the call to load
it. -/
theorem seeksRaw : StepsRight o identity s (.seekingRaw key) := by
  unfold StepsRight
  simp only [Stage.step, services, MemoryStore.serve]
  split
  · rename_i source there
    exact ⟨.preprocessing key source named (agrees.source_eq named there), agrees⟩
  · exact ⟨.loading key named, agrees⟩

/-- Loading counts itself, which is all that it does to the store.  A source that cannot be loaded
is the end of the call, with any store and with none. -/
theorem loadsRight : StepsRight o identity s (.loading key) := by
  unfold StepsRight
  simp only [Stage.step, services, MemoryStore.serve]
  have counted := agrees.count (s.loads + 1) s.runs
  cases loads : o.load key with
  | error e =>
      refine ⟨.finished _ ?_, counted⟩
      rw [solve_of_named named, solution, text, source, loads]
      rfl
  | ok text =>
      have loaded : o.source key = .ok text := by
        rw [source, loads]
        rfl
      exact ⟨.keepingRaw key text named loaded, counted⟩

/-- The pool may run the task of a call or fail on it, but what it comes to is the same for all
calls with this source. -/
theorem preprocesses {text : String} (loaded : o.source key = .ok text) :
    StepsRight o identity s (.preprocessing key text) := by
  unfold StepsRight
  simp only [Stage.step, services, MemoryStore.serve]
  have counted := agrees.count s.loads (s.runs + 1)
  have made := text_of_source loaded
  cases runs : (o.transform text).report.answer with
  | error e =>
      refine ⟨.finished _ ?_, counted⟩
      rw [solve_of_named named, solution, made, preprocess, runs]
      rfl
  | ok out =>
      rw [preprocess, runs] at made
      exact ⟨.keepingPreprocessed key out named made, counted⟩

/-- A text with solvers in it has them kept, and one without has nothing to keep. -/
theorem extracts {text : String} (made : o.text key = .ok text) :
    StepsRight o identity s (.extracting key text) := by
  unfold StepsRight
  simp only [Stage.step]
  have solution := solution_of_text made
  cases extracts : SolverSet.ofProgramText text with
  | error e =>
      refine ⟨.finished _ ?_, agrees⟩
      rw [solve_of_named named, solution, extract, extracts]
      rfl
  | ok solvers =>
      rw [extract, extracts] at solution
      cases solvers with
      | none =>
          refine ⟨.finished _ ?_, agrees⟩
          rw [solve_of_named named, solution]
          rfl
      | some solvers => exact ⟨.keepingSolvers key solvers named solution, agrees⟩

end Origin.Agrees

/-- **A step takes a call on as if there were no caches**, and leaves the store as right as it
was. -/
theorem Knows.step (knows : Knows o identity stage) (agrees : o.Agrees s) :
    Knows o identity (stage.step (o.services none) s).1 ∧
      o.Agrees (stage.step (o.services none) s).2 := by
  cases knows with
  | resolving => exact agrees.resolves identity
  | seekingSolvers key named => exact agrees.seeksSolvers named
  | seekingPreprocessed key named => exact agrees.seeksPreprocessed named
  | seekingRaw key named => exact agrees.seeksRaw named
  | loading key named => exact agrees.loadsRight named
  | keepingRaw key source named loaded =>
      exact ⟨.preprocessing key source named loaded, agrees.keepRaw named loaded⟩
  | preprocessing key source named loaded => exact agrees.preprocesses named loaded
  | keepingPreprocessed key text named made =>
      exact ⟨.extracting key text named made, agrees.keepPreprocessed named made⟩
  | extracting key text named made => exact agrees.extracts named made
  | keepingSolvers key solvers named found =>
      refine ⟨.finished _ ?_, agrees.keepSolvers named found⟩
      rw [Origin.solve_of_named named, found]
  | finished solution right => exact ⟨.finished solution right, agrees⟩

/-- A call that is left alone ends as if there were no caches. -/
theorem Knows.complete (knows : Knows o identity stage) (agrees : o.Agrees s) :
    (stage.complete (o.services none) s).1 = o.solve identity ∧
      o.Agrees (stage.complete (o.services none) s).2 := by
  fun_induction Stage.complete (o.services none) s stage with
  | case1 s stage solution ended =>
      cases knows with
      | finished solution' right =>
          cases ended
          exact ⟨right, agrees⟩
      | _ => cases ended
  | case2 s stage going ih => exact ih (knows.step agrees).1 (knows.step agrees).2

/-- **One call after another gets what it would get without caches.**  What it leaves behind agrees
with the sources again, so that this goes for the next one, too. -/
theorem Origin.Agrees.solve (agrees : o.Agrees s) (identity : String) :
    ((o.services none).solve s identity).1 = o.solve identity ∧
      o.Agrees ((o.services none).solve s identity).2 :=
  Knows.complete .resolving agrees

/-! ## Traffic -/

/-- That a call has nothing wrong in hand, or was turned away.  Whoever is turned away has not been
told anything about the script. -/
inductive Call.Honest (o : Origin) : Call → Prop
  | knows (identity : String) (stage : Stage) (knows : Knows o identity stage) :
    Honest o { identity, stage, rejection := none }
  | rejected (identity : String) (e : PoolError) (turned : e.isRejection = true) :
    Honest o { identity, stage := .finished (.error (.preprocess e)), rejection := some e }

/-- A step of one call keeps it honest and the store right, also if the pool turns the task of the
call away. A rejection is remembered with the call, so that it can be told later whose fault the
failure was. -/
theorem Call.Honest.advance {c : Call} {rejection : Option PoolError} (honest : c.Honest o)
    (admits : c.admits rejection = true) (agrees : o.Agrees s) :
    (c.advance o s rejection).1.Honest o ∧ o.Agrees (c.advance o s rejection).2 := by
  cases honest with
  | knows identity stage knows =>
      cases rejection with
      | none =>
          obtain ⟨knows', agrees'⟩ := knows.step agrees
          exact ⟨.knows identity _ knows', agrees'⟩
      | some e =>
          cases stage with
          | preprocessing key source =>
              -- What was kept of the source stays, and is right for those who come later.
              exact ⟨.rejected identity e admits, agrees.count s.loads (s.runs + 1)⟩
          | _ => cases admits
  | rejected identity e turned =>
      cases rejection with
      | none => exact ⟨.rejected identity e turned, agrees⟩
      | some e' => cases admits

/-- That neither the store nor any call has anything wrong.  Eviction only takes away, which is why
it can happen at any moment. -/
structure Traffic.Right (o : Origin) (t : Traffic) : Prop where
  store : o.Agrees t.store
  calls : ∀ c ∈ t.calls, c.Honest o

namespace Traffic

variable {t u : Traffic}

/-- A move of the traffic keeps everything right: a new call knows its own name only, a step is one
of a single call, and an eviction concerns the store alone. -/
theorem step?_right {move : TrafficMove} (right : t.Right o) (h : t.step? o move = some u) :
    u.Right o := by
  cases move with
  | ask identity =>
      cases h
      -- A call that has only been asked for knows nothing that could be wrong.
      refine ⟨right.store, fun c member => ?_⟩
      rcases List.mem_append.mp member with before | now
      · exact right.calls c before
      · rw [List.mem_singleton] at now
        rw [now]
        exact .knows identity _ .resolving
  | advance index rejection =>
      simp only [step?] at h
      split at h
      · rename_i c found
        rw [Option.ite_none_right_eq_some, Option.some.injEq] at h
        obtain ⟨admits, rfl⟩ := h
        obtain ⟨honest, agrees⟩ :=
          (right.calls c (List.mem_of_getElem? found)).advance admits right.store
        refine ⟨agrees, fun c' member => ?_⟩
        rcases List.mem_or_eq_of_mem_set member with before | rfl
        · exact right.calls c' before
        · exact honest
      · cases h
  | evict digest layer =>
      cases h
      exact ⟨right.store.evict digest layer, right.calls⟩

/-- The identity that a move asks for. -/
def asked? : TrafficMove → Option String
  | .ask identity => some identity
  | _ => none

/-- A move changes the identity of no call, and a call is added only by a move that asks. -/
theorem step?_identities {move : TrafficMove} (h : t.step? o move = some u) :
    u.calls.map Call.identity = t.calls.map Call.identity ++ (asked? move).toList := by
  cases move with
  | ask identity =>
      cases h
      rw [List.map_append]
      rfl
  | advance index rejection =>
      simp only [step?] at h
      split at h
      · rename_i c found
        rw [Option.ite_none_right_eq_some, Option.some.injEq] at h
        obtain ⟨-, rfl⟩ := h
        -- A call keeps its identity, so that replacing it does not show.
        obtain ⟨bound, rfl⟩ := List.getElem?_eq_some_iff.mp found
        have same : (t.calls.map Call.identity).set index t.calls[index].identity =
            t.calls.map Call.identity := by
          rw [← List.map_set, List.set_getElem_self]
        rw [List.map_set]
        exact same.trans (List.append_nil _).symm
      · cases h
  | evict digest layer =>
      cases h
      exact (List.append_nil _).symm

/-- Any number of moves keep everything right, by induction on the moves. -/
theorem run?_right {moves : List TrafficMove} (right : t.Right o) (h : t.run? o moves = some u) :
    u.Right o ∧
      u.calls.map Call.identity = t.calls.map Call.identity ++ moves.filterMap asked? := by
  induction moves generalizing t with
  | nil =>
      cases h
      exact ⟨right, (List.append_nil _).symm⟩
  | cons move rest ih =>
      simp only [run?, Option.bind_eq_some_iff] at h
      obtain ⟨r, first, more⟩ := h
      obtain ⟨right', identities⟩ := ih (step?_right right first) more
      refine ⟨right', ?_⟩
      rw [identities, step?_identities first, List.append_assoc]
      cases asks : asked? move <;> simp [asks]

/-- **Caches do not show.**  Calls that start from a store that agrees with where its contents
come from keep it so, and each that ends comes to what its identity comes to without any
store, unless the pool turned its task away, of which it then tells. -/
theorem run?_transparent {moves : List TrafficMove} (agrees : o.Agrees s)
    (h : ({ store := s } : Traffic).run? o moves = some t) :
    o.Agrees t.store ∧ t.calls.map Call.identity = moves.filterMap asked? ∧
      ∀ c ∈ t.calls, ∀ solution, c.stage.solution? = some solution →
        (c.rejection = none → solution = o.solve c.identity) ∧
          ∀ e, c.rejection = some e →
            e.isRejection = true ∧ solution = .error (.preprocess e) := by
  obtain ⟨right, identities⟩ := run?_right ⟨agrees, by simp⟩ h
  refine ⟨right.store, by simpa using identities, fun c member solution ended => ?_⟩
  cases right.calls c member with
  | knows identity stage knows =>
      cases knows with
      | finished solution' same =>
          cases ended
          exact ⟨fun _ => same, fun e turned => (nomatch turned)⟩
      | _ => cases ended
  | rejected identity e turned =>
      cases ended
      refine ⟨fun kept => (nomatch kept), fun e' same => ?_⟩
      cases same
      exact ⟨turned, rfl⟩

/-- What is left of the script that `steady` has, once it is preprocessed. -/
def steadyText : String := (scriptXy (.integer 3)).text

/-- The solvers that are in it. -/
def steadySolvers : SolverSet := ⟨solverXy (numberNode (.integer 3))⟩

/-- Where every script is one with a solver in it, which preprocessing leaves as it is.  All three
layers have something to keep then. -/
def steady : Origin where
  dir := "players"
  load _ := .ok steadyText
  transform := .returned

/-- They are found in the text, and with them its number, which is an integer and comes back as it
was. -/
theorem ofProgramText_steady : SolverSet.ofProgramText steadyText = .ok (some steadySolvers) := by
  have word : Number.inRange 3 = true := by decide
  exact ofProgramText_scriptXy (n := .integer 3) word (Number.reread_integer word)

/-- Blanks around a name do not make it the name of another script. -/
theorem resolve_steady (identity : String) (trimmed : trim identity = "u") :
    CacheKey.resolve steady.dir identity = .ok (.ofDigest steady.dir (identityDigest "u")) := by
  have same : trim "u" = "u" := by decide
  rw [CacheKey.resolve, identityDigest, identityDigest, trimmed, same, if_neg (by decide)]

/-- Four calls of which each finds its answer in another place, while what is above it was evicted.
The three that the pool serves come to what they come to without caches. -/
theorem shared_transparent :
    ∃ t, ({} : Traffic).run? steady (layers "u" " u " (identityDigest "u")) = some t ∧
      steady.Agrees t.store ∧
      t.calls.map (fun c => (c.stage.solution?, c.rejection)) =
        [(some (.ok (some steadySolvers)), none), (some (.ok (some steadySolvers)), none),
          (some (.ok (some steadySolvers)), none),
          (some (.error (.preprocess (.timeout 5))), some (.timeout 5))] ∧
      t.store.loads = 1 ∧ t.store.runs = 2 ∧
      ∀ c ∈ t.calls, ∀ solution, c.stage.solution? = some solution →
        c.rejection = none → solution = steady.solve c.identity := by
  obtain ⟨t, run, answers, counts⟩ := run?_layers (o := steady)
    (resolve_steady "u" (by decide)) (resolve_steady " u " (by decide)) rfl rfl
    ofProgramText_steady
  obtain ⟨agrees, -, right⟩ := run?_transparent steady.agrees_empty run
  exact ⟨t, run, agrees, answers, counts.1, counts.2,
    fun c member solution is => (right c member solution is).1⟩

end Traffic

end Decipher
