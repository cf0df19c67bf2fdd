import Decipher.Proofs.Pipeline.Economy

/-!
# Calls that fail

A call writes into its caches on its way, before it knows what it will come to.  Whatever that is,
it takes nothing away that was there, and it writes under its own digest only.  What fails is not
kept: a call that fails leaves the caches behind the place of its failure as they were, and solvers
are kept only by a call that answers them.

* `MemoryCache.Grows`: what work for one digest may do to a cache.
* `Visit.Contained`: what a call may do to its caches, for each of its ends.
* `Visit.solve_contained`: that it does no more.

`Contained` is about what stands in the caches, and not about what was asked or counted: a call
that fails to load is counted as one that tried.  A source that is kept although nothing could be
made of it is kept on purpose, as is a text without solvers: both spare work to the next call
(`Proofs.Pipeline.Economy`).

* `Visit.runAll_answers`: hence solvers that are kept were answered by some call, in any succession
  of calls.
-/

namespace Decipher

/-! ## Caches that grow -/

/-- That one cache comes of another by work for one digest: what was there is there, and nothing
else is new under other digests. -/
structure MemoryCache.Grows {α : Type} (digest : String) (c c' : MemoryCache α) : Prop where
  kept : ∀ other value, c.get? other = some value → c'.get? other = some value
  others : ∀ other, other ≠ digest → c'.get? other = c.get? other

namespace MemoryCache

variable {α : Type} {c c' c'' : MemoryCache α} {digest : String}

theorem Grows.refl (digest : String) (c : MemoryCache α) : c.Grows digest c :=
  ⟨fun _ _ => id, fun _ _ => rfl⟩

theorem Grows.trans (first : c.Grows digest c') (second : c'.Grows digest c'') :
    c.Grows digest c'' :=
  ⟨fun other value there => second.kept other value (first.kept other value there),
    fun other others => (second.others other others).trans (first.others other others)⟩

/-- A cache grows by a value under a digest that had none. -/
theorem grows_set (missing : c.get? digest = none) (value : α) :
    c.Grows digest (c.set digest value) := by
  refine ⟨fun other found there => get?_set_of_missing missing value there, fun other others => ?_⟩
  rw [get?_set, if_neg others]

end MemoryCache

namespace MemoryStore

/-- That the caches of one store come of those of another by work for one digest. -/
structure Grows (digest : String) (s s' : MemoryStore) : Prop where
  raw : s.raw.Grows digest s'.raw
  preprocessed : s.preprocessed.Grows digest s'.preprocessed
  solvers : s.solvers.Grows digest s'.solvers

/-- That two stores have the same caches.  What they have noted of loads and runs may differ. -/
structure SameCaches (s s' : MemoryStore) : Prop where
  raw : s'.raw = s.raw
  preprocessed : s'.preprocessed = s.preprocessed
  solvers : s'.solvers = s.solvers

variable {s s' s'' : MemoryStore} {digest text : String}

theorem Grows.trans (first : s.Grows digest s') (second : s'.Grows digest s'') :
    s.Grows digest s'' :=
  ⟨first.raw.trans second.raw, first.preprocessed.trans second.preprocessed,
    first.solvers.trans second.solvers⟩

theorem SameCaches.grows (same : s.SameCaches s') (digest : String) : s.Grows digest s' := by
  refine ⟨?_, ?_, ?_⟩
  · rw [same.raw]
    exact .refl digest s.raw
  · rw [same.preprocessed]
    exact .refl digest s.preprocessed
  · rw [same.solvers]
    exact .refl digest s.solvers

/-- Solvers that are found in a text are work for the digest of the text, if there were none for it.
-/
theorem grows_harvest (unsolved : s.solvers.get? digest = none) (text : String) :
    s.Grows digest (s.harvest digest text) := by
  rw [harvest]
  split
  · exact ⟨.refl digest s.raw, .refl digest s.preprocessed, MemoryCache.grows_set unsolved _⟩
  · exact SameCaches.grows ⟨rfl, rfl, rfl⟩ digest

/-- The solvers in a text are kept. -/
theorem get?_solvers_harvest {solvers : SolverSet} (s : MemoryStore) (digest : String)
    (found : SolverSet.ofProgramText text = .ok (some solvers)) :
    (s.harvest digest text).solvers.get? digest = some solvers := by
  simp only [harvest, found, MemoryCache.get?_set, if_true]

end MemoryStore

/-! ## One call -/

namespace Visit

variable {dir : String} {v : Visit} {s after : MemoryStore} {key : CacheKey} {source text : String}
  {solution : Solution} {deeds : List Deed}

/-- **What a call may do to its caches.**  It takes no entry away and changes none, and adds entries
under its own digest only.  If it fails to get a source, it adds nothing; if it fails to have it
preprocessed, nothing but the source that it loaded.  It adds solvers if it answers them, and no
others. -/
structure Contained (dir : String) (v : Visit) (s : MemoryStore) (solution : Solution)
    (after : MemoryStore) : Prop where
  grows : s.Grows (identityDigest v.identity) after
  resolution : ∀ e, solution = .error (.resolution e) → s.SameCaches after
  load : ∀ e, solution = .error (.load e) → s.SameCaches after
  preprocess : ∀ e, solution = .error (.preprocess e) →
    after.preprocessed = s.preprocessed ∧ after.solvers = s.solvers ∧
      (after.raw = s.raw ∨
        ∃ key source, CacheKey.resolve dir v.identity = .ok key ∧ v.load key = .ok source ∧
          s.raw.get? key.digest = none ∧ after.raw = s.raw.set key.digest source)
  tree : ∀ e, solution = .error (.tree e) → after.solvers = s.solvers
  absent : solution = .ok none → after.solvers = s.solvers
  gained : ∀ digest solvers, s.solvers.get? digest = none →
    after.solvers.get? digest = some solvers → solution = .ok (some solvers)
  answered : ∀ solvers, solution = .ok (some solvers) →
    after.solvers.get? (identityDigest v.identity) = some solvers

/-- What is wrong with a text is wrong with its tree. -/
theorem tree_of_mapError {found : Except TreeError (Option SolverSet)} {e : SolveError}
    (fails : found.mapError SolveError.tree = .error e) : ∃ e', e = .tree e' := by
  cases found with
  | error e' =>
    cases fails
    exact ⟨e', rfl⟩
  | ok found => cases fails

theorem ok_of_mapError {found : Except TreeError (Option SolverSet)} {solvers : SolverSet}
    (answers : found.mapError SolveError.tree = .ok (some solvers)) :
    found = .ok (some solvers) := by
  cases found with
  | error e => cases answers
  | ok found =>
    cases answers
    rfl

/-! ### From a source -/

theorem Ran.grows (ran : v.Ran s key source solution deeds after)
    (missing : s.preprocessed.get? key.digest = none)
    (unsolved : s.solvers.get? key.digest = none) : s.Grows key.digest after := by
  cases ran with
  | failed e answer => exact ⟨.refl .., .refl .., .refl ..⟩
  | made text answer =>
    have keeps : s.Grows key.digest { s with
        runs := s.runs + 1
        preprocessed := s.preprocessed.set key.digest text } :=
      ⟨.refl .., MemoryCache.grows_set missing text, .refl ..⟩
    exact keeps.trans (MemoryStore.grows_harvest (by exact unsolved) text)

/-- Solvers that are answered were kept just before. -/
theorem Ran.answered (ran : v.Ran s key source solution deeds after) {solvers : SolverSet}
    (answers : solution = .ok (some solvers)) :
    after.solvers.get? key.digest = some solvers := by
  cases ran with
  | failed e answer => cases answers
  | made text answer => exact MemoryStore.get?_solvers_harvest _ _ (ok_of_mapError answers)

/-- With a source in hand, a call fails because the source cannot be preprocessed, and keeps
nothing, or because what is made of it is no tree. -/
theorem Ran.of_error (ran : v.Ran s key source solution deeds after) {e : SolveError}
    (fails : solution = .error e) :
    (∃ e', e = .preprocess e' ∧ s.SameCaches after) ∨ ∃ e', e = .tree e' := by
  cases ran with
  | failed e' answer =>
    cases fails
    exact .inl ⟨e', rfl, rfl, rfl, rfl⟩
  | made text answer => exact .inr (tree_of_mapError fails)

/-! ### From a key -/

/-- A call with a key works for the digest of its key only.  Each entry that it writes was missing
when it looked, which is what the course says of each of its ways. -/
theorem Course.grows (course : v.Course s key solution deeds after)
    (unsolved : s.solvers.get? key.digest = none) : s.Grows key.digest after := by
  cases course with
  | solved solvers there => exact ⟨.refl .., .refl .., .refl ..⟩
  | extracted text there => exact MemoryStore.grows_harvest unsolved text
  | remembered source missing there ran => exact ran.grows missing unsolved
  | unloaded e missing missing' answer => exact ⟨.refl .., .refl .., .refl ..⟩
  | loaded source missing missing' answer ran =>
    have keeps : s.Grows key.digest { s with
        loads := s.loads + 1
        raw := s.raw.set key.digest source } :=
      ⟨MemoryCache.grows_set missing' source, .refl .., .refl ..⟩
    exact keeps.trans (ran.grows missing unsolved)

/-- Solvers that are answered are kept when the call ends, either for long or since just now. -/
theorem Course.answered (course : v.Course s key solution deeds after) {solvers : SolverSet}
    (answers : solution = .ok (some solvers)) :
    after.solvers.get? key.digest = some solvers := by
  cases course with
  | solved solvers' there =>
    cases answers
    exact there
  | extracted text there => exact MemoryStore.get?_solvers_harvest _ _ (ok_of_mapError answers)
  | remembered source missing there ran => exact ran.answered answers
  | unloaded e missing missing' answer => cases answers
  | loaded source missing missing' answer ran => exact ran.answered answers

/-- What a call keeps that fails with a key in hand.  It can fail in three ways, each of which tells
how far the call has come. -/
theorem Course.of_error (course : v.Course s key solution deeds after) {e : SolveError}
    (fails : solution = .error e) :
    (∃ e', e = .load e' ∧ s.SameCaches after) ∨
      (∃ e', e = .preprocess e' ∧ after.preprocessed = s.preprocessed ∧
        after.solvers = s.solvers ∧
        (after.raw = s.raw ∨ ∃ source, v.load key = .ok source ∧
          s.raw.get? key.digest = none ∧ after.raw = s.raw.set key.digest source)) ∨
      ∃ e', e = .tree e' := by
  cases course with
  | solved solvers there => cases fails
  | extracted text there => exact .inr (.inr (tree_of_mapError fails))
  | remembered source missing there ran =>
    obtain ⟨e', failed, same⟩ | tree := ran.of_error fails
    · exact .inr (.inl ⟨e', failed, same.preprocessed, same.solvers, .inl same.raw⟩)
    · exact .inr (.inr tree)
  | unloaded e' missing missing' answer =>
    cases fails
    exact .inl ⟨e', rfl, rfl, rfl, rfl⟩
  | loaded source missing missing' answer ran =>
    obtain ⟨e', failed, same⟩ | tree := ran.of_error fails
    · exact .inr (.inl ⟨e', failed, same.preprocessed, same.solvers,
        .inr ⟨source, answer, missing', same.raw⟩⟩)
    · exact .inr (.inr tree)

/-- A call with a key gains no solvers but those that it answers: it keeps none if it answers none,
and what it keeps is under its own digest. -/
theorem Course.gained (course : v.Course s key solution deeds after)
    (unsolved : s.solvers.get? key.digest = none) {digest : String} {solvers : SolverSet}
    (missing : s.solvers.get? digest = none) (there : after.solvers.get? digest = some solvers) :
    solution = .ok (some solvers) := by
  by_cases answers : ∃ solvers', solution = .ok (some solvers')
  · obtain ⟨solvers', answers⟩ := answers
    by_cases own : digest = key.digest
    · rw [own, course.answered answers] at there
      cases there
      exact answers
    · rw [(course.grows unsolved).solvers.others digest own, missing] at there
      cases there
  · rw [not_exists] at answers
    rw [course.solvers answers, missing] at there
    cases there

/-- A call that has a key and finds no solvers keeps to what it may do. -/
theorem Course.contained (course : v.Course s key solution deeds after)
    (named : CacheKey.resolve dir v.identity = .ok key)
    (unsolved : s.solvers.get? key.digest = none) : Contained dir v s solution after := by
  have digest : key.digest = identityDigest v.identity := by
    rw [(CacheKey.resolve_eq_ok_iff.mp named).2]
    rfl
  constructor
  case grows =>
    rw [← digest]
    exact course.grows unsolved
  case resolution =>
    intro e fails
    obtain ⟨e', same, -⟩ | ⟨e', same, -⟩ | ⟨e', same⟩ := course.of_error fails
    all_goals cases same
  case load =>
    intro e fails
    obtain ⟨e', -, same⟩ | ⟨e', same, -⟩ | ⟨e', same⟩ := course.of_error fails
    · exact same
    all_goals cases same
  case preprocess =>
    intro e fails
    obtain ⟨e', same, -⟩ | ⟨e', -, preprocessed, solvers, raw⟩ | ⟨e', same⟩ :=
      course.of_error fails
    · cases same
    · refine ⟨preprocessed, solvers, raw.imp_right ?_⟩
      rintro ⟨source, loaded, missing, kept⟩
      exact ⟨key, source, named, loaded, missing, kept⟩
    · cases same
  case tree =>
    rintro e rfl
    exact course.solvers nofun
  case absent =>
    rintro rfl
    exact course.solvers nofun
  case gained => exact fun _ _ => course.gained unsolved
  case answered =>
    intro solvers answers
    rw [← digest]
    exact course.answered answers

/-- A call that does nothing to its caches, but answers solvers that are there or fails for want of
a key. -/
theorem contained_self
    (idle : (∃ e, solution = .error (.resolution e)) ∨ ∃ solvers, solution = .ok (some solvers) ∧
      s.solvers.get? (identityDigest v.identity) = some solvers) :
    Contained dir v s solution s := by
  refine ⟨⟨.refl .., .refl .., .refl ..⟩, fun _ _ => ⟨rfl, rfl, rfl⟩, fun _ _ => ⟨rfl, rfl, rfl⟩,
    fun _ _ => ⟨rfl, rfl, .inl rfl⟩, fun _ _ => rfl, fun _ => rfl, ?_, ?_⟩
  · intro digest solvers missing there
    rw [missing] at there
    cases there
  · rintro solvers rfl
    obtain ⟨e, fails⟩ | ⟨solvers', answers, there⟩ := idle
    · cases fails
    · cases answers
      exact there

/-- A call that finds its solvers does nothing else. -/
theorem run_of_solved {solvers : SolverSet} (named : CacheKey.resolve dir v.identity = .ok key)
    (there : s.solvers.get? key.digest = some solvers) :
    v.run dir s = ⟨v.identity, .ok (some solvers), [], s, s⟩ := by
  have looks : (v.services dir).logged.solvers.get? (s, []) key.digest = some solvers := there
  have resolves : (v.services dir).resolve = CacheKey.resolve dir := by
    rw [services, MemoryStore.serve]
  rw [run, Services.solve_eq, Services.logged_resolve, resolves, named]
  dsimp only
  rw [Services.fromKey, looks]

/-- A call that is written down keeps to what it may do.  It has no key, or finds its solvers, or
takes a course. -/
theorem run_contained (dir : String) (v : Visit) (s : MemoryStore) :
    Contained dir v s (v.run dir s).solution (v.run dir s).after := by
  obtain ⟨e, -, ends⟩ | ⟨key, solution, deeds, after, named, ends, course⟩ := run_cases dir v s
  · rw [ends]
    exact contained_self (.inl ⟨e, rfl⟩)
  · cases solved : s.solvers.get? key.digest with
    | none =>
      rw [ends]
      exact course.contained named solved
    | some solvers =>
      rw [run_of_solved named solved]
      rw [(CacheKey.resolve_eq_ok_iff.mp named).2] at solved
      exact contained_self (.inr ⟨solvers, rfl, solved⟩)

/-- What a call comes to, and the store that it leaves, whether or not it is written down. -/
theorem solve_eq_run (dir : String) (v : Visit) (s : MemoryStore) :
    (v.services dir).solve s v.identity = ((v.run dir s).solution, (v.run dir s).after) :=
  ((v.services dir).forget_solve s [] v.identity).symm

/-- **What fails is not kept.**  Whatever the caches hold before a call, however its source is
loaded and whatever becomes of it, the call takes no entry away and changes none, and adds entries
under its own digest only: none at all if it has no key or no source, none but the source if the
source cannot be preprocessed, and solvers only if it answers them. -/
theorem solve_contained (dir : String) (v : Visit) (s : MemoryStore) :
    Contained dir v s ((v.services dir).solve s v.identity).1
      ((v.services dir).solve s v.identity).2 := by
  rw [solve_eq_run]
  exact run_contained dir v s

/-! ## Calls one after another -/

/-- Solvers that are kept after a call were there before it, or it answered them. -/
theorem Contained.answers {digest : String} {solvers : SolverSet}
    (contained : Contained dir v s solution after)
    (there : after.solvers.get? digest = some solvers) :
    s.solvers.get? digest = some solvers ∨
      solution = .ok (some solvers) ∧ identityDigest v.identity = digest := by
  cases before : s.solvers.get? digest with
  | some solvers' =>
    rw [contained.grows.solvers.kept digest solvers' before] at there
    exact .inl there
  | none =>
    refine .inr ⟨contained.gained digest solvers before there, ?_⟩
    by_cases own : identityDigest v.identity = digest
    · exact own
    · rw [contained.grows.solvers.others digest (Ne.symm own), before] at there
      cases there

/-- **Solvers that are kept were answered.**  In any succession of calls, what the cache of solvers
holds is what it held at first, or what one of the calls for the same digest has answered. -/
theorem runAll_answers {visits : List Visit} {r : VisitRecord} {digest : String}
    {solvers : SolverSet} (among : r ∈ runAll dir s visits)
    (there : r.after.solvers.get? digest = some solvers) :
    s.solvers.get? digest = some solvers ∨
      ∃ r' ∈ runAll dir s visits, r'.solution = .ok (some solvers) ∧
        identityDigest r'.identity = digest := by
  induction visits generalizing s with
  | nil => cases among
  | cons v rest ih =>
    rw [runAll, List.mem_cons] at among
    rw [runAll]
    have answered (there : (v.run dir s).after.solvers.get? digest = some solvers) :
        s.solvers.get? digest = some solvers ∨
          ∃ r' ∈ v.run dir s :: runAll dir (v.run dir s).after rest,
            r'.solution = .ok (some solvers) ∧ identityDigest r'.identity = digest := by
      refine (run_contained dir v s).answers there |>.imp_right ?_
      rintro ⟨answers, own⟩
      exact ⟨_, List.mem_cons_self, answers, by rwa [identity_run]⟩
    -- Either the call at hand is the first one, or what it keeps was there after the first one.
    obtain rfl | later := among
    · exact answered there
    · obtain before | ⟨r', among', answers⟩ := ih later
      · exact answered before
      · exact .inr ⟨r', List.mem_cons_of_mem _ among', answers⟩

end Visit

end Decipher
