import Decipher.Pipeline.Succession
import Decipher.Proofs.Cache.Names
import Decipher.Proofs.Pipeline.Course

/-!
# Work that is done once

Calls that are made one after another share what they keep.  A source that was loaded stays, even
if it could not be preprocessed; a text stays that was made of it, even if there are no solvers in
it; and solvers are kept only beside the text that they are in.  So no call does again what an
earlier one has done, however the answers change that it would get.

* `Services.forget_solve`: writing down what calls ask changes nothing.
* `Visit.Course`: what one call does, said at once.
* `MemoryStore.Extends`, `MemoryStore.Coherent`: what is kept stays, and fits together.
* `Visit.Settles`, `Deed.Spares`: what one call means for a later one.
* `Visit.runAll_once`: work is done once.

Nothing is said about evictions here: memory caches that forget make calls work again, and what
they come to then is the matter of `Proofs.Pipeline.Transparency`.

What a call asks for cannot be told from what it comes to, so calls are made with services that
write down each load and each task of the pool (`Services.logged`), and `forget_solve` tells that
they come to the same.  A call takes one of five ways, and `Visit.Course` lists them, each with
what it found, what it asked for and what it left.  Everything after that is a case distinction
over the course, and no proof opens the steps of a call again.

Two properties carry the induction over calls.  `Extends` is about sources and texts, which are
never replaced, as they are only written where there are none.  `Coherent` is about solvers, which
are looked for first: without it, solvers from nowhere would be answered where a text is kept that
has others.
-/

namespace Decipher

/-! ## Writing down -/

namespace Services

variable {σ : Type} (services : Services σ) (store : σ) (deeds : List Deed) (key : CacheKey)

@[simp] theorem logged_resolve : services.logged.resolve = services.resolve := rfl

/-- A load is written down with its answer, whatever it is. -/
@[simp] theorem logged_load : services.logged.load (store, deeds) key =
    ((services.load store key).1, (services.load store key).2,
      deeds ++ [.load key (services.load store key).1]) := rfl

@[simp] theorem logged_execute (source : String) :
    services.logged.execute (store, deeds) source =
      ((services.execute store source).1, (services.execute store source).2,
        deeds ++ [.execute source (services.execute store source).1]) := rfl

@[simp] theorem logged_raw :
    services.logged.raw = services.raw.beside (List Deed) := rfl

@[simp] theorem logged_preprocessed :
    services.logged.preprocessed = services.preprocessed.beside (List Deed) := rfl

@[simp] theorem logged_solvers :
    services.logged.solvers = services.solvers.beside (List Deed) := rfl

end Services

namespace Layer

variable {σ α : Type} (β : Type) (layer : Layer σ α) (s : σ) (b : β) (digest : String)

@[simp] theorem beside_get? : (layer.beside β).get? (s, b) digest = layer.get? s digest := rfl

end Layer

namespace Services

variable {σ : Type} (services : Services σ) (store : σ) (deeds : List Deed) (key : CacheKey)

/-- What a call comes to, without what was written down.  It leaves the solution and the store. -/
def forget (outcome : Solution × σ × List Deed) : Solution × σ := (outcome.1, outcome.2.1)

/-- What is written down does not show in what a call comes to from a text. -/
theorem forget_fromText (text : String) :
    forget (services.logged.fromText (store, deeds) key text) =
      services.fromText store key text := by
  rw [fromText, fromText]
  cases SolverSet.ofProgramText text with
  | error e => rfl
  | ok found => cases found <;> rfl

theorem forget_fromSource (source : String) :
    forget (services.logged.fromSource (store, deeds) key source) =
      services.fromSource store key source := by
  rw [fromSource, fromSource, logged_execute]
  obtain ⟨answer, after⟩ := services.execute store source
  cases answer with
  | error e => rfl
  | ok text => exact forget_fromText ..

theorem forget_fromLoader :
    forget (services.logged.fromLoader (store, deeds) key) = services.fromLoader store key := by
  rw [fromLoader, fromLoader, logged_load]
  obtain ⟨answer, after⟩ := services.load store key
  cases answer with
  | error e => rfl
  | ok source => exact forget_fromSource ..

/-- Nor does it show from a key on, whatever is found under it. -/
theorem forget_fromKey :
    forget (services.logged.fromKey (store, deeds) key) = services.fromKey store key := by
  rw [fromKey, fromKey]
  simp only [logged_solvers, logged_preprocessed, logged_raw, Layer.beside_get?]
  cases services.solvers.get? store key.digest with
  | some solvers => rfl
  | none =>
    cases services.preprocessed.get? store key.digest with
    | some text => exact forget_fromText ..
    | none =>
      cases services.raw.get? store key.digest with
      | some source => exact forget_fromSource ..
      | none => exact forget_fromLoader ..

/-- **Writing down changes nothing.**  So what is proved of calls that are written down is true of
calls. -/
theorem forget_solve (identity : String) :
    forget (services.logged.solve (store, deeds) identity) = services.solve store identity := by
  rw [solve_eq, solve_eq, logged_resolve]
  cases services.resolve identity with
  | error e => rfl
  | ok key => exact forget_fromKey ..

end Services

/-! ## What a call does -/

namespace MemoryStore

/-- A store in which the solvers in a text are kept, if there are any.  A text without solvers, or
with a tree that cannot be read, leaves the store as it is. -/
def harvest (s : MemoryStore) (digest text : String) : MemoryStore :=
  match SolverSet.ofProgramText text with
  | .ok (some solvers) => { s with solvers := s.solvers.set digest solvers }
  | _ => s

variable (s : MemoryStore) (digest text : String)

@[simp] theorem raw_harvest : (s.harvest digest text).raw = s.raw := by
  unfold harvest
  split <;> rfl

@[simp] theorem preprocessed_harvest :
    (s.harvest digest text).preprocessed = s.preprocessed := by
  unfold harvest
  split <;> rfl

end MemoryStore

namespace Visit

/-- **What a call does with a source**: it has it preprocessed, and keeps the text and the solvers
that are in it. -/
inductive Ran (v : Visit) (s : MemoryStore) (key : CacheKey) (source : String) :
    Solution → List Deed → MemoryStore → Prop
  | failed (e : PoolError) (answer : v.execute source = .error e) :
    Ran v s key source (.error (.preprocess e)) [.execute source (.error e)]
      { s with runs := s.runs + 1 }
  | made (text : String) (answer : v.execute source = .ok text) :
    Ran v s key source ((SolverSet.ofProgramText text).mapError .tree)
      [.execute source (.ok text)]
      (({ s with
        runs := s.runs + 1
        preprocessed := s.preprocessed.set key.digest text }).harvest key.digest text)

/-- **What a call does that has a key.**  There is one way for each layer that has something to
offer, and two for none of them: the source is loaded, or it is not. -/
inductive Course (v : Visit) (s : MemoryStore) (key : CacheKey) :
    Solution → List Deed → MemoryStore → Prop
  | solved (solvers : SolverSet) (there : s.solvers.get? key.digest = some solvers) :
    Course v s key (.ok (some solvers)) [] s
  | extracted (text : String) (there : s.preprocessed.get? key.digest = some text) :
    Course v s key ((SolverSet.ofProgramText text).mapError .tree) []
      (s.harvest key.digest text)
  | remembered (source : String) (missing : s.preprocessed.get? key.digest = none)
    (there : s.raw.get? key.digest = some source) {solution deeds after}
    (ran : v.Ran s key source solution deeds after) : Course v s key solution deeds after
  | unloaded (e : LoadError) (missing : s.preprocessed.get? key.digest = none)
    (missing' : s.raw.get? key.digest = none) (answer : v.load key = .error e) :
    Course v s key (.error (.load e)) [.load key (.error e)] { s with loads := s.loads + 1 }
  | loaded (source : String) (missing : s.preprocessed.get? key.digest = none)
    (missing' : s.raw.get? key.digest = none) (answer : v.load key = .ok source)
    {solution deeds after}
    (ran : v.Ran { s with loads := s.loads + 1, raw := s.raw.set key.digest source } key source
      solution deeds after) :
    Course v s key solution (.load key (.ok source) :: deeds) after

section Course

variable {dir : String} {v : Visit} {s : MemoryStore} {key : CacheKey}

/-- From a text, a call asks nobody. -/
theorem fromText_eq (deeds : List Deed) (text : String) :
    (v.services dir).logged.fromText (s, deeds) key text =
      ((SolverSet.ofProgramText text).mapError .tree, s.harvest key.digest text, deeds) := by
  rw [Services.fromText, MemoryStore.harvest]
  cases SolverSet.ofProgramText text with
  | error e => rfl
  | ok found => cases found <;> rfl

/-- From a source, a call has one task for the pool, and what follows depends on the answer alone.
-/
theorem ran_fromSource (dir : String) (v : Visit) (s : MemoryStore) (key : CacheKey)
    (deeds : List Deed) (source : String) :
    ∃ deeds', ((v.services dir).logged.fromSource (s, deeds) key source).2.2 = deeds ++ deeds' ∧
      v.Ran s key source ((v.services dir).logged.fromSource (s, deeds) key source).1 deeds'
        ((v.services dir).logged.fromSource (s, deeds) key source).2.1 := by
  have executes : (v.services dir).execute s source =
      (v.execute source, { s with runs := s.runs + 1 }) := rfl
  rw [Services.fromSource, Services.logged_execute, executes]
  cases answer : v.execute source with
  | error e => exact ⟨_, rfl, .failed e answer⟩
  | ok text =>
    have keeps : (v.services dir).logged.preprocessed.set
        ({ s with runs := s.runs + 1 }, deeds ++ [.execute source (.ok text)]) key.digest text =
      ({ s with runs := s.runs + 1, preprocessed := s.preprocessed.set key.digest text },
        deeds ++ [.execute source (.ok text)]) := rfl
    simp only [keeps, fromText_eq]
    exact ⟨_, rfl, .made text answer⟩

/-- A call that finds neither a text nor a source loads one. -/
theorem course_fromLoader (missing : s.preprocessed.get? key.digest = none)
    (missing' : s.raw.get? key.digest = none) :
    v.Course s key ((v.services dir).logged.fromLoader (s, []) key).1
      ((v.services dir).logged.fromLoader (s, []) key).2.2
      ((v.services dir).logged.fromLoader (s, []) key).2.1 := by
  have loads : (v.services dir).load s key = (v.load key, { s with loads := s.loads + 1 }) := rfl
  rw [Services.fromLoader, Services.logged_load, loads]
  cases answer : v.load key with
  | error e => exact .unloaded e missing missing' answer
  | ok source =>
    have keeps : (v.services dir).logged.raw.set
        ({ s with loads := s.loads + 1 }, [.load key (.ok source)]) key.digest source =
      ({ s with loads := s.loads + 1, raw := s.raw.set key.digest source },
        [.load key (.ok source)]) := rfl
    obtain ⟨deeds, written, ran⟩ := ran_fromSource dir v
      { s with loads := s.loads + 1, raw := s.raw.set key.digest source } key
      [.load key (.ok source)] source
    simp only [List.nil_append, keeps, written]
    exact .loaded source missing missing' answer ran

/-- The course of a call follows from what is found and what is answered.  It looks into the caches
one after another, and goes on to the next place only where it finds nothing. -/
theorem course_fromKey :
    v.Course s key ((v.services dir).logged.fromKey (s, []) key).1
      ((v.services dir).logged.fromKey (s, []) key).2.2
      ((v.services dir).logged.fromKey (s, []) key).2.1 := by
  have solvers : (v.services dir).logged.solvers.get? (s, []) key.digest =
      s.solvers.get? key.digest := rfl
  have preprocessed : (v.services dir).logged.preprocessed.get? (s, []) key.digest =
      s.preprocessed.get? key.digest := rfl
  have raw : (v.services dir).logged.raw.get? (s, []) key.digest = s.raw.get? key.digest := rfl
  rw [Services.fromKey, solvers, preprocessed, raw]
  cases solved : s.solvers.get? key.digest with
  | some solvers => exact .solved solvers solved
  | none =>
    cases extracted : s.preprocessed.get? key.digest with
    | some text =>
      simp only [fromText_eq]
      exact .extracted text extracted
    | none =>
      cases remembered : s.raw.get? key.digest with
      | some source =>
        obtain ⟨deeds, written, ran⟩ := ran_fromSource dir v s key [] source
        simp only [written]
        exact .remembered source extracted remembered ran
      | none => exact course_fromLoader extracted remembered

/-- What a call does: nothing, if its identity has no key, and else what its key calls for. -/
theorem run_cases (dir : String) (v : Visit) (s : MemoryStore) :
    (∃ e, CacheKey.resolve dir v.identity = .error e ∧
      v.run dir s = ⟨v.identity, .error (.resolution e), [], s, s⟩) ∨
    ∃ key solution deeds after, CacheKey.resolve dir v.identity = .ok key ∧
      v.run dir s = ⟨v.identity, solution, deeds, s, after⟩ ∧
      v.Course s key solution deeds after := by
  rw [run, Services.solve_eq, Services.logged_resolve]
  have resolves : (v.services dir).resolve = CacheKey.resolve dir := by
    rw [services, MemoryStore.serve]
  rw [resolves]
  cases CacheKey.resolve dir v.identity with
  | error e => exact .inl ⟨e, rfl, rfl⟩
  | ok key =>
    have course : v.Course s key ((v.services dir).logged.fromKey (s, []) key).1
      ((v.services dir).logged.fromKey (s, []) key).2.2
      ((v.services dir).logged.fromKey (s, []) key).2.1 := course_fromKey
    dsimp only
    generalize (v.services dir).logged.fromKey (s, []) key = outcome at course ⊢
    obtain ⟨solution, after, deeds⟩ := outcome
    exact .inr ⟨key, solution, deeds, after, rfl, rfl, course⟩

end Course

end Visit

/-- What one thing that was asked for spares another: a source that was loaded is not loaded
again. -/
def Deed.Spares (d d' : Deed) : Prop :=
  ∀ key source key' answer, d = .load key (.ok source) → d' = .load key' answer →
    key'.digest ≠ key.digest

/-! ## What stays -/

/-- What is kept under a new digest takes nothing away. -/
theorem MemoryCache.get?_set_of_missing {α : Type} {c : MemoryCache α} {digest : String}
    (missing : c.get? digest = none) (value : α) {other : String} {found : α}
    (there : c.get? other = some found) :
    (c.set digest value).get? other = some found := by
  rw [MemoryCache.get?_set, if_neg, there]
  rintro rfl
  rw [missing] at there
  cases there

namespace MemoryStore

/-- That what is kept of sources and texts in one store is kept in another.  It says nothing of
solvers, which are kept where there is a text with solvers in it. -/
structure Extends (s s' : MemoryStore) : Prop where
  raw : ∀ digest source, s.raw.get? digest = some source → s'.raw.get? digest = some source
  preprocessed : ∀ digest text, s.preprocessed.get? digest = some text →
    s'.preprocessed.get? digest = some text

/-- That solvers are kept only beside the text that they are in.  A store that is filled by calls is
like this, and an empty one is. -/
def Coherent (s : MemoryStore) : Prop :=
  ∀ digest solvers, s.solvers.get? digest = some solvers →
    ∃ text, s.preprocessed.get? digest = some text ∧
      SolverSet.ofProgramText text = .ok (some solvers)

variable {s s' s'' : MemoryStore} {digest source text : String}

theorem Extends.refl (s : MemoryStore) : Extends s s := ⟨fun _ _ => id, fun _ _ => id⟩

theorem Extends.trans (first : Extends s s') (second : Extends s' s'') : Extends s s'' :=
  ⟨fun _ _ there => second.raw _ _ (first.raw _ _ there),
    fun _ _ there => second.preprocessed _ _ (first.preprocessed _ _ there)⟩

/-- A text that is new takes nothing away. -/
theorem extends_made (missing : s.preprocessed.get? digest = none) (text : String) :
    s.Extends { s with
      runs := s.runs + 1
      preprocessed := s.preprocessed.set digest text } :=
  ⟨fun _ _ => id, fun _ _ there => MemoryCache.get?_set_of_missing missing text there⟩

theorem extends_loaded (missing : s.raw.get? digest = none) (source : String) :
    s.Extends { s with loads := s.loads + 1, raw := s.raw.set digest source } :=
  ⟨fun _ _ there => MemoryCache.get?_set_of_missing missing source there, fun _ _ => id⟩

/-- Solvers take no source and no text away, new or not. -/
theorem extends_harvest (s : MemoryStore) (digest text : String) :
    Extends s (s.harvest digest text) :=
  ⟨fun _ _ there => by rwa [raw_harvest], fun _ _ there => by rwa [preprocessed_harvest]⟩

theorem coherent_empty : Coherent {} := by
  intro digest solvers there
  cases there

/-- Solvers keep their text as long as texts are only added. -/
theorem Coherent.of_extends (coherent : s.Coherent) (more : Extends s s')
    (same : s'.solvers = s.solvers) : s'.Coherent := by
  intro digest solvers there
  rw [same] at there
  obtain ⟨text, kept, found⟩ := coherent digest solvers there
  exact ⟨text, more.preprocessed _ _ kept, found⟩

/-- Solvers that are taken from a text are kept beside it.  The ones that may have been there before
make way, and other digests do not see any of it. -/
theorem Coherent.harvest (coherent : s.Coherent) (there : s.preprocessed.get? digest = some text) :
    (s.harvest digest text).Coherent := by
  rw [MemoryStore.harvest]
  split
  · rename_i solvers found
    intro other solvers' kept
    dsimp only at kept ⊢
    rw [MemoryCache.get?_set] at kept
    split at kept
    · rename_i same
      cases kept
      exact ⟨text, same ▸ there, found⟩
    · exact coherent other solvers' kept
  · exact coherent

/-- A text without solvers leaves the solvers as they are. -/
theorem solvers_harvest (none : ∀ solvers, SolverSet.ofProgramText text ≠ .ok (some solvers)) :
    (s.harvest digest text).solvers = s.solvers := by
  rw [harvest]
  split
  · rename_i solvers found
    exact absurd found (none solvers)
  · rfl

end MemoryStore

namespace Visit

variable {dir : String} {v : Visit} {s after : MemoryStore} {key : CacheKey} {source text : String}
  {solution : Solution} {deeds : List Deed}

/-! ### One call with a source -/

/-- Work on a source takes no source and no text away. -/
theorem Ran.extends (ran : v.Ran s key source solution deeds after)
    (missing : s.preprocessed.get? key.digest = none) : s.Extends after := by
  cases ran with
  | failed e answer => exact ⟨fun _ _ => id, fun _ _ => id⟩
  | made text answer =>
    have more := MemoryStore.extends_made missing text
    exact more.trans (MemoryStore.extends_harvest ..)

/-- Work on a source leaves solvers beside their texts. -/
theorem Ran.coherent (ran : v.Ran s key source solution deeds after)
    (missing : s.preprocessed.get? key.digest = none) (coherent : s.Coherent) :
    after.Coherent := by
  cases ran with
  | failed e answer => exact coherent
  | made text answer =>
    have more := MemoryStore.extends_made missing text
    exact (coherent.of_extends more rfl).harvest (by simp)

/-- Work on a source that answers no solvers keeps none. -/
theorem Ran.solvers (ran : v.Ran s key source solution deeds after)
    (none : ∀ solvers, solution ≠ .ok (some solvers)) : after.solvers = s.solvers := by
  cases ran with
  | failed e answer => rfl
  | made text answer =>
    refine MemoryStore.solvers_harvest fun solvers found => ?_
    exact none solvers (by rw [found]; rfl)

/-- A text that was made is kept, and answered from. -/
theorem Ran.of_executed (ran : v.Ran s key source solution deeds after) {source' : String}
    (told : .execute source' (.ok text) ∈ deeds) :
    after.preprocessed.get? key.digest = some text ∧
      solution = (SolverSet.ofProgramText text).mapError .tree := by
  cases ran with
  | failed e answer => simp at told
  | made text' answer =>
    simp only [List.mem_singleton, Deed.execute.injEq, Except.ok.injEq] at told
    obtain ⟨-, rfl⟩ := told
    exact ⟨by simp, rfl⟩

theorem Ran.not_load (ran : v.Ran s key source solution deeds after) {key' : CacheKey}
    {answer : Except LoadError String} : .load key' answer ∉ deeds := by
  cases ran <;> simp

theorem Ran.pairwise (ran : v.Ran s key source solution deeds after) :
    deeds.Pairwise Deed.Spares := by
  cases ran <;> exact List.pairwise_singleton ..

/-! ### One call -/

theorem Course.extends (course : v.Course s key solution deeds after) : s.Extends after := by
  cases course with
  | solved => exact .refl s
  | extracted text => exact MemoryStore.extends_harvest ..
  | remembered source missing there ran => exact ran.extends missing
  | unloaded => exact ⟨fun _ _ => id, fun _ _ => id⟩
  | loaded source missing missing' answer ran =>
    exact (MemoryStore.extends_loaded missing' source).trans (ran.extends missing)

theorem Course.coherent (course : v.Course s key solution deeds after) (coherent : s.Coherent) :
    after.Coherent := by
  cases course with
  | solved => exact coherent
  | extracted text there => exact coherent.harvest there
  | remembered source missing there ran => exact ran.coherent missing coherent
  | unloaded => exact coherent
  | loaded source missing missing' answer ran =>
    exact ran.coherent missing
      (coherent.of_extends (MemoryStore.extends_loaded missing' source) rfl)

/-- Only solvers that are answered are kept as such. -/
theorem Course.solvers (course : v.Course s key solution deeds after)
    (none : ∀ solvers, solution ≠ .ok (some solvers)) : after.solvers = s.solvers := by
  cases course with
  | solved => rfl
  | extracted text there =>
    refine MemoryStore.solvers_harvest fun solvers found => ?_
    exact none solvers (by rw [found]; rfl)
  | remembered source missing there ran => exact ran.solvers none
  | unloaded => rfl
  | loaded source missing missing' answer ran => exact ran.solvers none

/-- A call loads only its own source, and keeps what it loads. -/
theorem Course.of_load {key' : CacheKey} {answer : Except LoadError String}
    (course : v.Course s key solution deeds after) (told : .load key' answer ∈ deeds) :
    key' = key ∧ s.raw.get? key.digest = none ∧ s.preprocessed.get? key.digest = none ∧
      ∀ source, answer = .ok source → after.raw.get? key.digest = some source := by
  cases course with
  | solved => cases told
  | extracted => cases told
  | remembered source missing there ran => exact absurd told ran.not_load
  | unloaded e missing missing' answer' =>
    simp only [List.mem_singleton, Deed.load.injEq] at told
    obtain ⟨rfl, rfl⟩ := told
    exact ⟨rfl, missing', missing, nofun⟩
  | loaded source missing missing' answer' ran =>
    simp only [List.mem_cons, ran.not_load, or_false, Deed.load.injEq] at told
    obtain ⟨rfl, rfl⟩ := told
    refine ⟨rfl, missing', missing, ?_⟩
    rintro _ ⟨rfl⟩
    exact (ran.extends missing).raw _ _ (by simp)

/-- A call loads at most once. -/
theorem Course.pairwise (course : v.Course s key solution deeds after) :
    deeds.Pairwise Deed.Spares := by
  cases course with
  | solved => exact .nil
  | extracted => exact .nil
  | remembered source missing there ran => exact ran.pairwise
  | unloaded => exact List.pairwise_singleton ..
  | loaded source missing missing' answer ran =>
    refine .cons (fun d told => ?_) ran.pairwise
    rintro _ _ key' answer' - rfl
    exact absurd told ran.not_load

/-- A text that was made is kept, and answered from. -/
theorem Course.of_executed (course : v.Course s key solution deeds after) {source : String}
    (told : .execute source (.ok text) ∈ deeds) :
    after.preprocessed.get? key.digest = some text ∧
      solution = (SolverSet.ofProgramText text).mapError .tree := by
  cases course with
  | solved => cases told
  | extracted => cases told
  | remembered source missing there ran => exact ran.of_executed told
  | unloaded => simp at told
  | loaded source missing missing' answer ran =>
    simp only [List.mem_cons, reduceCtorEq, false_or] at told
    exact ran.of_executed told

/-- A call with a text that is kept asks nobody, and answers from the text.  Solvers that it finds
are the ones in the text, since the store is coherent. -/
theorem Course.of_kept (course : v.Course s key solution deeds after) (coherent : s.Coherent)
    (kept : s.preprocessed.get? key.digest = some text) :
    deeds = [] ∧ solution = (SolverSet.ofProgramText text).mapError .tree := by
  cases course with
  | solved solvers there =>
    obtain ⟨text', kept', found⟩ := coherent _ _ there
    rw [kept] at kept'
    cases kept'
    exact ⟨rfl, by rw [found]; rfl⟩
  | extracted text' there =>
    rw [kept] at there
    cases there
    exact ⟨rfl, rfl⟩
  | remembered source missing => simp [kept] at missing
  | unloaded e missing => simp [kept] at missing
  | loaded source missing => simp [kept] at missing

/-! ## Calls one after another -/

theorem identity_run (dir : String) (v : Visit) (s : MemoryStore) :
    (v.run dir s).identity = v.identity := by
  obtain ⟨e, -, ends⟩ | ⟨key, solution, deeds, after, -, ends, -⟩ := run_cases dir v s
  · rw [ends]
  · rw [ends]

/-- What is kept of sources and texts stays through a call. -/
theorem extends_run (dir : String) (v : Visit) (s : MemoryStore) :
    s.Extends (v.run dir s).after := by
  obtain ⟨e, -, ends⟩ | ⟨key, solution, deeds, after, -, ends, course⟩ := run_cases dir v s
  · rw [ends]
    exact .refl s
  · rw [ends]
    exact course.extends

theorem coherent_run (dir : String) (v : Visit) (coherent : s.Coherent) :
    (v.run dir s).after.Coherent := by
  obtain ⟨e, -, ends⟩ | ⟨key, solution, deeds, after, -, ends, course⟩ := run_cases dir v s
  · rw [ends]
    exact coherent
  · rw [ends]
    exact course.coherent coherent

/-- Every call of a succession starts from a coherent store, which has what was kept before. -/
theorem mem_runAll {visits : List Visit} (coherent : s.Coherent) {r : VisitRecord}
    (there : r ∈ runAll dir s visits) :
    ∃ v ∈ visits, r = v.run dir r.before ∧ s.Extends r.before ∧ r.before.Coherent := by
  induction visits generalizing s with
  | nil => cases there
  | cons v rest ih =>
    rw [runAll, List.mem_cons] at there
    obtain rfl | later := there
    · have started : (v.run dir s).before = s := rfl
      rw [started]
      exact ⟨v, List.mem_cons_self, rfl, .refl s, coherent⟩
    · obtain ⟨v', there', ends, more, coherent'⟩ := ih (coherent_run dir v coherent) later
      exact ⟨v', List.mem_cons_of_mem _ there', ends, (extends_run dir v s).trans more, coherent'⟩

/-- **That one call spares another its work.**  Once a source was preprocessed, no later call for
its digest asks for anything, and all of them answer from the text that was made then. -/
def Settles (r r' : VisitRecord) : Prop :=
  ∀ source text, .execute source (.ok text) ∈ r.deeds →
    identityDigest r'.identity = identityDigest r.identity → (trim r'.identity).isEmpty = false →
      r'.deeds = [] ∧ r'.solution = r.solution ∧
        r.solution = (SolverSet.ofProgramText text).mapError .tree

/-- No call loads twice. -/
theorem pairwise_run (dir : String) (v : Visit) (s : MemoryStore) :
    (v.run dir s).deeds.Pairwise Deed.Spares := by
  obtain ⟨e, -, ends⟩ | ⟨key, solution, deeds, after, -, ends, course⟩ := run_cases dir v s
  · rw [ends]
    exact .nil
  · rw [ends]
    exact course.pairwise

variable {v' : Visit} {s' : MemoryStore}

/-- A source that one call loads is there for a later one.  If that one loads anything it has not
found a source, and so it is about another digest. -/
theorem spares_run (more : (v.run dir s).after.Extends s') {d d' : Deed}
    (told : d ∈ (v.run dir s).deeds) (told' : d' ∈ (v'.run dir s').deeds) : d.Spares d' := by
  rintro key source key' answer rfl rfl same
  obtain ⟨e, -, ends⟩ | ⟨key₁, solution, deeds, after, named, ends, course⟩ := run_cases dir v s
  · rw [ends] at told
    cases told
  obtain ⟨e, -, ends'⟩ | ⟨key₂, solution', deeds', after', named', ends', course'⟩ :=
    run_cases dir v' s'
  · rw [ends'] at told'
    cases told'
  rw [ends] at told more
  rw [ends'] at told'
  obtain ⟨rfl, -, -, keeps⟩ := course.of_load told
  obtain ⟨rfl, missing, -⟩ := course'.of_load told'
  -- A call loads only what is not in memory, but the first one has kept its source there.
  have kept := more.raw _ _ (keeps source rfl)
  rw [← same, missing] at kept
  cases kept

/-- A text that one call makes is there for a later one, which asks for nothing and answers from it,
or from the solvers that were kept beside it. -/
theorem settles_run (more : (v.run dir s).after.Extends s') (coherent : s'.Coherent) :
    Settles (v.run dir s) (v'.run dir s') := by
  intro source text told same nonempty
  obtain ⟨e, -, ends⟩ | ⟨key, solution, deeds, after, named, ends, course⟩ := run_cases dir v s
  · rw [ends] at told
    cases told
  -- Digests tell all of the keys, so the later call looks where the first one has kept its text.
  have known := (CacheKey.resolve_eq_ok_iff.mp named).2
  have named' : CacheKey.resolve dir v'.identity = .ok key :=
    CacheKey.resolve_eq_ok_iff.mpr ⟨nonempty, known.trans (congrArg _ same.symm)⟩
  obtain ⟨e, resolves, -⟩ | ⟨key', solution', deeds', after', resolves, ends', course'⟩ :=
    run_cases dir v' s'
  · rw [named'] at resolves
    cases resolves
  rw [named'] at resolves
  cases resolves
  rw [ends] at told more ⊢
  rw [ends']
  obtain ⟨kept, answered⟩ := course.of_executed told
  obtain ⟨idle, answered'⟩ := course'.of_kept coherent (more.preprocessed _ _ kept)
  exact ⟨idle, answered'.trans answered.symm, answered⟩

/-- Calls one after another spare each other their work.  By induction on the calls, from any
coherent store: the first call is compared with each later one, whose store has all that the first
one left. -/
theorem pairwise_runAll (visits : List Visit) (coherent : s.Coherent) :
    (runAll dir s visits).Pairwise Settles ∧
      ((runAll dir s visits).flatMap (·.deeds)).Pairwise Deed.Spares := by
  induction visits generalizing s with
  | nil => exact ⟨.nil, .nil⟩
  | cons v rest ih =>
    obtain ⟨settled, spared⟩ := ih (coherent_run dir v coherent)
    -- What is kept after the first call is there when each of the others starts.
    have later {r : VisitRecord} (there : r ∈ runAll dir (v.run dir s).after rest) :
        ∃ v' : Visit, r = v'.run dir r.before ∧ (v.run dir s).after.Extends r.before ∧
          r.before.Coherent := by
      obtain ⟨v', -, started⟩ := mem_runAll (coherent_run dir v coherent) there
      exact ⟨v', started⟩
    rw [runAll]
    constructor
    · refine .cons (fun r there => ?_) settled
      obtain ⟨v', ends, more, coherent'⟩ := later there
      rw [ends]
      exact settles_run more coherent'
    · -- Either both things were asked for in one call, or one of them in the first.
      rw [List.flatMap_cons, List.pairwise_append]
      refine ⟨pairwise_run dir v s, spared, fun d told d' told' => ?_⟩
      obtain ⟨r, there, told'⟩ := List.mem_flatMap.mp told'
      obtain ⟨v', ends, more, -⟩ := later there
      rw [ends] at told'
      exact spares_run more told told'

/-- **Work is done once.**  In any succession of calls over empty caches, a source that was loaded
once is never loaded again.  Once a source was preprocessed, no later call for the same script asks
for anything, and all of them answer the same.  A call that answers no solvers keeps none. -/
theorem runAll_once (dir : String) (visits : List Visit) :
    ((runAll dir {} visits).flatMap (·.deeds)).Pairwise Deed.Spares ∧
      (runAll dir {} visits).Pairwise Settles ∧
      ∀ r ∈ runAll dir {} visits, (∀ solvers, r.solution ≠ .ok (some solvers)) →
        r.after.solvers = r.before.solvers := by
  obtain ⟨settled, spared⟩ := pairwise_runAll visits MemoryStore.coherent_empty
  refine ⟨spared, settled, fun r there none => ?_⟩
  obtain ⟨v, -, ends, -⟩ := mem_runAll MemoryStore.coherent_empty there
  rw [ends] at none ⊢
  obtain ⟨e, -, ends'⟩ | ⟨key, solution, deeds, after, -, ends', course⟩ :=
    run_cases dir v r.before
  · rw [ends']
  · rw [ends'] at none ⊢
    exact course.solvers none

/-! ### Two calls -/

/-- A call for a script. -/
def first : Visit := ⟨"u", fun _ => .ok "f()", fun _ => .ok "no tree"⟩

/-- A call for the same script, which is gone by then.  Its identity has blanks around it, and is
the same without them. -/
def second : Visit := ⟨" u ", fun key => .error ⟨key.sourcePath, "gone"⟩, fun _ => .error .closed⟩

/-- The first call has its script preprocessed. -/
theorem executed_first : .execute "f()" (.ok "no tree") ∈ (first.run "cache" {}).deeds := by
  obtain ⟨e, resolves, -⟩ | ⟨key, solution, deeds, after, -, ends, course⟩ :=
    run_cases "cache" first {}
  · cases resolves
  rw [ends]
  cases course with
  | solved solvers there => cases there
  | extracted text there => cases there
  | remembered source missing there => cases there
  | unloaded e missing missing' answer => cases answer
  | loaded source missing missing' answer ran =>
    cases answer
    cases ran with
    | failed e answer => cases answer
    | made text answer =>
      cases answer
      simp

/-- The second call need not ask. -/
theorem settles_first : ∃ r r', runAll "cache" {} [first, second] = [r, r'] ∧
    .execute "f()" (.ok "no tree") ∈ r.deeds ∧ r'.deeds = [] ∧ r'.solution = r.solution := by
  obtain ⟨-, settled, -⟩ := runAll_once "cache" [first, second]
  rw [runAll, runAll, runAll] at settled ⊢
  refine ⟨_, _, rfl, executed_first, ?_⟩
  have settles : Settles (first.run "cache" {}) (second.run "cache" (first.run "cache" {}).after) :=
    (List.pairwise_cons.mp settled).1 _ List.mem_cons_self
  have settles' := settles _ _ executed_first
  rw [identity_run, identity_run] at settles'
  have trimmed : trim second.identity = trim first.identity := by decide
  have nonempty : (trim second.identity).isEmpty = false := by decide
  obtain ⟨idle, answers, -⟩ := settles' (by rw [identityDigest, trimmed, identityDigest]) nonempty
  exact ⟨idle, answers⟩

end Visit

end Decipher
