import Decipher.Proofs.Json.Reread
import Decipher.Proofs.Pipeline.Persistence
import Decipher.Proofs.Script.Nesting

/-!
# What pruning gives can be used

A pruned tree is written as text, and the text is read again before solvers are looked for.  It is
read by the rules for any text: the brackets that may be open at once are counted again, and its
numbers are scaled again.  None of this can go wrong.  The tree is no deeper than the one that was
read from the source, every number can be read again, and what comes back is a program.

* `ofProgramText_program`: the text of a program is that of a program.
* `Services.Prunes`: services that have sources pruned.
* `run_usable`: what a run gives has solvers or has none, and a call never fails for its sake.

The bound on the depth is what matters most.  Pruning takes statements out of their wrappers and
puts them into a program that is made anew, so that other brackets stand around them than before;
but there are never more of these than there were (`Proofs.Script.Nesting`).  Numbers are no matter
for the depth, and any number that was read can be written and read again, though not always as
itself.

What was kept by somebody else is another matter: a text in a cache need not be a tree, and then
the call does fail, which is why it is assumed that there is none.
-/

namespace Decipher

namespace Prune

variable {sourceType w : Json} {kept : List Json}

/-- A program is read again as a program.  Reading again changes numbers at most, and so neither
keys nor kinds. -/
theorem reread_program (read : (program sourceType kept).reread = some w) :
    ∃ sourceType' kept', w = program sourceType' kept' := by
  simp only [program, Json.reread, Json.rereadMembers, Option.bind_eq_bind] at read
  cases items : Json.rereadItems kept with
  | none =>
    rw [items] at read
    cases read
  | some kept' =>
    cases type : sourceType.reread with
    | none =>
      rw [items, type] at read
      cases read
    | some sourceType' =>
      rw [items, type] at read
      cases read
      exact ⟨sourceType', kept', rfl⟩

/-- Whether a program bears solvers can be told from its text. -/
theorem ofProgramText_program (fits : Json.Fits Json.maxNesting (program sourceType kept)) :
    ∃ solvers, SolverSet.ofProgramText (program sourceType kept).text = .ok solvers := by
  obtain ⟨w, read, parsed⟩ := Json.parse_text_of_fits fits
  obtain ⟨sourceType', kept', rfl⟩ := reread_program read
  rw [SolverSet.ofProgramText, parsed]
  exact ⟨_, rfl⟩

/-- What a run comes to is the text of a program that is no deeper than its source. -/
theorem run_eq_ok {limit : Nat} {raised : Nat → Bool} {source out : String}
    (done : run limit raised source = .ok out) :
    ∃ tree pruned kept, Json.parse source = .ok tree ∧ pruneTree raised tree = .ok pruned ∧
      out = pruned.text ∧ pruned = program (tree.get "sourceType") kept ∧
      Json.Fits tree.depth pruned ∧ tree.depth ≤ Json.maxNesting := by
  simp only [run, bind_eq_ok, mapError_eq_ok] at done
  obtain ⟨-, -, tree, parsed, pruned, prunes, is⟩ := done
  obtain ⟨body, -, -, made⟩ := pruneTree_eq_ok prunes
  have read := Json.fits_of_parse parsed
  have fits : Json.Fits tree.depth tree := ⟨read.wellFormed, Nat.le_refl _⟩
  cases is
  exact ⟨tree, pruned, _, parsed, prunes, rfl, made, pruneTree_fits fits prunes, read.shallow⟩

/-- Solvers can be looked for in whatever a run comes to. -/
theorem ofProgramText_of_run {limit : Nat} {raised : Nat → Bool} {source out : String}
    (done : run limit raised source = .ok out) :
    ∃ solvers, SolverSet.ofProgramText out = .ok solvers := by
  obtain ⟨tree, pruned, kept, -, -, rfl, rfl, fits, shallow⟩ := run_eq_ok done
  exact ofProgramText_program (fits.mono shallow)

end Prune

/-! ## Calls -/

namespace Services

variable {σ : Type} {services : Services σ}

/-- Services that have sources pruned: what they answer is what a run made of the source.  How large
a source may be and when a run is cancelled is left open. -/
def Prunes (services : Services σ) : Prop :=
  ∀ store source text, (services.execute store source).1 = .ok text →
    ∃ limit raised, Prune.run limit raised source = .ok text

/-- A call that has its source pruned does not fail for the sake of its tree. -/
theorem fromSource_ne_tree (prunes : services.Prunes) (store : σ) (key : CacheKey)
    (source : String) (e : TreeError) :
    (services.fromSource store key source).1 ≠ .error (.tree e) := by
  have answers := prunes store source
  unfold fromSource
  generalize services.execute store source = executed at answers
  obtain ⟨answer, after⟩ := executed
  cases answer with
  | error e' => exact nofun
  | ok text =>
    obtain ⟨limit, raised, done⟩ := answers text rfl
    obtain ⟨solvers, found⟩ := Prune.ofProgramText_of_run done
    dsimp only
    rw [fromText_fst, found]
    exact nofun

/-- A call with a key fails for the sake of no tree but one that was kept. -/
theorem fromKey_ne_tree (prunes : services.Prunes) {store : σ} {key : CacheKey}
    (absent : services.preprocessed.get? store key.digest = none) (e : TreeError) :
    (services.fromKey store key).1 ≠ .error (.tree e) := by
  unfold fromKey
  cases services.solvers.get? store key.digest with
  | some solvers => exact nofun
  | none =>
    rw [absent]
    cases services.raw.get? store key.digest with
    | some source => exact fromSource_ne_tree prunes store key source e
    | none =>
      dsimp only
      unfold fromLoader
      obtain ⟨answer, after⟩ := services.load store key
      cases answer with
      | error e' => exact nofun
      | ok source => exact fromSource_ne_tree prunes _ key source e

end Services

/-- **What pruning gives can be used.**  Whatever a run over a source comes to is the text of a
program, which is no deeper than the tree of the source, and solvers are found in it or are found
to be missing.  So no call fails for the sake of a tree if its sources are pruned and no
preprocessed one is at hand. -/
theorem run_usable :
    (∀ limit raised source out, Prune.run limit raised source = .ok out →
      ∃ tree pruned, Json.parse source = .ok tree ∧ Prune.pruneTree raised tree = .ok pruned ∧
        out = pruned.text ∧ pruned.IsKind "Program" ∧ (∃ kept, pruned.get "body" = .array kept) ∧
        pruned.depth ≤ tree.depth ∧ tree.depth ≤ Json.maxNesting ∧
        ∃ solvers, SolverSet.ofProgramText out = .ok solvers) ∧
      ∀ {σ : Type} (services : Services σ) (store : σ) (identity : String), services.Prunes →
        (∀ key, services.resolve identity = .ok key →
          services.preprocessed.get? store key.digest = none) →
        ∀ e, (services.solve store identity).1 ≠ .error (.tree e) := by
  constructor
  · intro limit raised source out done
    obtain ⟨tree, pruned, kept, parsed, prunes, rfl, rfl, fits, shallow⟩ := Prune.run_eq_ok done
    exact ⟨tree, _, parsed, prunes, rfl, rfl, ⟨kept, rfl⟩, fits.shallow, shallow,
      Prune.ofProgramText_of_run done⟩
  · intro σ services store identity prunes absent e
    rw [Services.solve_eq]
    cases resolved : services.resolve identity with
    | error e' => exact nofun
    | ok key => exact Services.fromKey_ne_tree prunes (absent key resolved) e

/-! ## A script on disk -/

/-- The services of a command prune, with the limit that is configured. -/
theorem DiskStore.services_prunes (dir : String) (c : Config) :
    (DiskStore.services dir (Command.execute c)).Prunes := by
  intro store source text answered
  exact ⟨c.maxPayload, fun _ => false, (execute_eq_ok c).mp answered⟩

namespace Drift

theorem run_near : Prune.run ({} : Config).maxPayload (fun _ => false) (scriptXy (near 0)).text =
    .ok (scriptXy (near 1)).text :=
  run_script (wellFormed_near 0 (by decide)) (reread_near 0 (by decide)) checkSize_script

theorem preprocessed_tree (key : CacheKey)
    (named : (DiskStore.services "cache" (Command.execute {})).resolve "p" = .ok key) :
    (DiskStore.services "cache" (Command.execute {})).preprocessed.get? { files := tree }
      key.digest = none := by
  obtain ⟨p, entries, absent, -⟩ := isFresh_tree.entries
  have is : CacheKey.resolve "cache" "p" = .ok (.ofDigest "cache" (identityDigest "p")) := rfl
  have same := Except.ok.inj (is.symm.trans named)
  subst same
  -- Whoever looks into the digest has to compute it.
  generalize identityDigest "p" = digest at entries
  exact FileCache.get?_of_absent entries.text absent

/-- A number that comes back as another one does not spoil the tree. -/
theorem usable_script :
    Prune.run ({} : Config).maxPayload (fun _ => false) (scriptXy (near 0)).text =
        .ok (scriptXy (near 1)).text ∧
      (∃ solvers, SolverSet.ofProgramText (scriptXy (near 1)).text = .ok solvers) ∧
      ∀ e, ((DiskStore.services "cache" (Command.execute {})).solve { files := tree } "p").1 ≠
        .error (.tree e) := by
  obtain ⟨programs, calls⟩ := run_usable
  obtain ⟨-, -, -, -, -, -, -, -, -, usable⟩ := programs _ _ _ _ run_near
  refine ⟨run_near, usable, ?_⟩
  exact calls _ _ "p" (DiskStore.services_prunes "cache" {}) preprocessed_tree

end Drift

end Decipher
