import Decipher.CommandLine.Run
import Decipher.Proofs.Cache.File
import Decipher.Proofs.Json.Reread
import Decipher.Proofs.Pipeline.Disk
import Decipher.Proofs.Script.Prune
import Decipher.Proofs.Solver.Extraction

/-!
# What is found again

The first call for a script keeps the preprocessed text and the solvers that it finds in files.
A later call, of another process, finds them there.  What it answers is not what was found but
what the entry reads as (`SolverSet.reread`).  It always reads as something, and as the same just
if all numbers in the solvers come back as they were.

* `IsFresh`: nothing was kept yet for a script.
* `Settled`: what the first call leaves for the others, and each of them for the next.
* `solve_persisted`: so all calls after the first answer the same.

The first call may find its solvers in the source or, after another process left a text behind, in
the text; here nothing is left of other calls (`IsFresh`), and the first call makes both entries.
They are told apart by their names, and each is written to a temporary file before (`EntryPlaces`).
Only the entry of solvers is ever looked at again.

* `Drift.near`, `Drift.tree`: numbers that are another each time they are read, and a script with
  such a number in it.
* `Drift.not_persisted`: so it is not so that every later call answers what the first one did.

Numbers come back as they were if they are integers, or if their shortest text is read as them. The
reader does not round to the nearest number (`Proofs.Binary64.Rounding`), and so the text of a
number may be read as a neighbour of it; `Proofs.Json.Reread` has the details.
-/

namespace Decipher

/-! ## Solvers in files -/

/-- **Solvers can be read again**, because all their numbers can.  So an entry that was written is
never one that cannot be used. -/
theorem SolverSet.exists_reread {s : SolverSet} (wellFormed : ∀ n ∈ s.numbers, n.WellFormed) :
    ∃ s', s.reread = some s' := by
  rw [← Option.ne_none_iff_exists', Ne, reread_eq_none_iff]
  rintro ⟨n, there, missing⟩
  have found := Number.reread_isSome (wellFormed n there)
  rw [missing] at found
  cases found

/-! ## Places of entries -/

/-- The places of the entries of a script, and of the files that they are written to first. -/
structure EntryPlaces where
  text : FilePlace
  temporaryText : FilePlace
  solvers : FilePlace
  temporarySolvers : FilePlace

/-- That the entries of a script can be written at their places.  For each of them there is a
temporary file, at another place than the entry itself. -/
structure Entries (dir digest : String) (p : EntryPlaces) (t : FileTree) : Prop where
  text : (DiskStore.preprocessedCache dir).Keeps t digest p.temporaryText p.text
  solvers : (DiskStore.solverCache dir).Keeps t digest p.temporarySolvers p.solvers

variable {dir identity : String} {p : EntryPlaces} {t t' : FileTree} {s : SolverSet}

theorem Entries.of_same {digest : String} (entries : Entries dir digest p t)
    (same : FileTree.SameDirectories t t') : Entries dir digest p t' :=
  ⟨entries.text.of_same same, entries.solvers.of_same same⟩

/-- Keeping solvers does not touch the preprocessed text, as the two kinds of entries have different
names, with the ending of a temporary file and without. -/
theorem Entries.apart (entries : Entries dir (identityDigest identity) p t) :
    p.text ≠ p.solvers ∧ p.text ≠ p.temporarySolvers := by
  have text := entries.text.getLast?_entry (isName_preprocessed dir identity)
  have solvers := entries.solvers.getLast?_entry (isName_solvers dir identity)
  have temporary := entries.solvers.getLast?_temporary (isName_solvers dir identity)
  constructor
  · intro same
    rw [same, solvers, Option.some.injEq] at text
    exact preprocessedName_ne_solversName dir identity identity text.symm
  · intro same
    rw [same, temporary, Option.some.injEq] at text
    exact FileCache.entryName_ne_temporary _ text.symm

/-! ## Scripts of which nothing is kept -/

/-- That a path leads to a place at which nothing stands. -/
def FileTree.IsFree (t : FileTree) (path : String) : Prop :=
  ∃ place, t.resolve path = .ok place ∧ t.node? place = none

instance (t : FileTree) (path : String) : Decidable (t.IsFree path) :=
  decidable_of_iff (((t.resolve path).toOption.any fun place => (t.node? place).isNone) = true) (by
    unfold FileTree.IsFree
    cases t.resolve path <;> simp [Except.toOption])

/-- That nothing was kept yet for a script: its directory is there, and the files that a call
writes for it can be made. -/
structure IsFresh (dir identity : String) (t : FileTree) : Prop where
  directory : t.isDirectory dir = true
  text : ∀ path ∈ Command.entryFiles (DiskStore.preprocessedCache dir) (identityDigest identity),
    t.IsFree path
  solvers : ∀ path ∈ Command.entryFiles (DiskStore.solverCache dir) (identityDigest identity),
    t.IsFree path

/-- If nothing stands at the two paths of an entry, the entry can be written. -/
theorem FileCache.keeps_of_free {α : Type} {c : FileCache α} {digest : String}
    (named : Path.IsName (c.entryName digest)) (directory : t.isDirectory c.dir = true)
    (free : ∀ path ∈ Command.entryFiles c digest, t.IsFree path) :
    ∃ temporary entry, c.Keeps t digest temporary entry ∧ t.node? entry = none := by
  obtain ⟨entry, led, absent⟩ := free (c.entryPath digest) (by simp [Command.entryFiles])
  obtain ⟨temporary, led', absent'⟩ :=
    free (temporaryPath (c.entryPath digest)) (by simp [Command.entryFiles])
  exact ⟨temporary, entry, keeps_of_absent named directory led absent led' absent', absent⟩

/-- Both entries of a script can be written if nothing was kept for it. -/
theorem IsFresh.entries (fresh : IsFresh dir identity t) :
    ∃ p, Entries dir (identityDigest identity) p t ∧ t.node? p.text = none ∧
      t.node? p.solvers = none := by
  obtain ⟨temporaryText, text, keeps, absent⟩ :=
    FileCache.keeps_of_free (isName_preprocessed dir identity) fresh.directory fresh.text
  obtain ⟨temporarySolvers, solvers, keeps', absent'⟩ :=
    FileCache.keeps_of_free (isName_solvers dir identity) fresh.directory fresh.solvers
  exact ⟨⟨text, temporaryText, solvers, temporarySolvers⟩, ⟨keeps, keeps'⟩, absent, absent'⟩

/-- Nothing was kept for a script in a directory that has no files with the names of its
entries. -/
theorem isFresh_of_enters {base : FilePlace} (directory : t.isDirectory dir = true)
    (enters : t.Enters dir base) (short : dir.utf8ByteSize + 87 < FileTree.pathLimit)
    (absent : ∀ kind : EntryKind, t.node? (base ++ [kind.fileName identity]) = none ∧
      t.node? (base ++ [kind.fileName identity ++ ".tmp"]) = none) :
    IsFresh dir identity t := by
  have free (kind : EntryKind) :
      ∀ path ∈ Command.entryFiles (kind.cache dir) (identityDigest identity), t.IsFree path := by
    have named := kind.isName_fileName identity
    have noNul := kind.noNul_fileName identity
    have size := kind.utf8ByteSize_fileName_le identity
    have longest : FileTree.maxNameLength = 255 := rfl
    obtain ⟨entry, temporary⟩ := absent kind
    intro path there
    simp only [Command.entryFiles, kind.entryPath_cache, List.mem_cons, List.not_mem_nil,
      or_false] at there
    rcases there with same | same <;> rw [same]
    · exact ⟨_, enters.resolve_join named noNul (by omega) (by omega), entry⟩
    · exact ⟨_, FileCache.resolve_temporaryPath enters named noNul (by omega) (by omega),
        temporary⟩
  exact ⟨directory, free .text, free .solvers⟩

/-! ## Scripts of which everything is kept -/

/-- **What was found for a script is kept.**  A text with the solvers in it stands in the one
entry, and the solvers stand in the other. -/
structure Settled (dir identity : String) (s : SolverSet) (p : EntryPlaces) (t : FileTree) :
    Prop where
  named : CacheKey.resolve dir identity = .ok (.ofDigest dir (identityDigest identity))
  entries : Entries dir (identityDigest identity) p t
  text : ∃ text, t.node? p.text = some (.file (FileCache.content text)) ∧
    SolverSet.ofProgramText text = .ok (some s)
  solvers : t.node? p.solvers = some (.file (FileCache.content s))

open DiskStore in
/-- What is left when solvers are kept beside the text that they were found in. -/
theorem settled_set {text : String}
    (named : CacheKey.resolve dir identity = .ok (.ofDigest dir (identityDigest identity)))
    (entries : Entries dir (identityDigest identity) p t)
    (there : t.node? p.text = some (.file (FileCache.content text)))
    (found : SolverSet.ofProgramText text = .ok (some s)) :
    Settled dir identity s p ((solverCache dir).set t (identityDigest identity) s) := by
  obtain ⟨apart, apart'⟩ := entries.apart
  refine ⟨named, entries.of_same (FileCache.sameDirectories_set entries.solvers s),
    ⟨text, ?_, found⟩, ?_⟩
  · rw [FileCache.node?_set entries.solvers, if_neg apart, if_neg apart', there]
  · rw [FileCache.node?_set entries.solvers, if_pos rfl]

theorem named_of_solve {σ : Type} {services : Services σ} {store store' : σ}
    {solution : Option SolverSet}
    (ends : services.solve store identity = (.ok solution, store')) :
    ∃ key, services.resolve identity = .ok key := by
  rw [Services.solve_eq] at ends
  cases resolves : services.resolve identity with
  | ok key => exact ⟨key, rfl⟩
  | error e =>
    rw [resolves] at ends
    cases ends

section Calls

open DiskStore

variable {execute : String → Except PoolError String} {store : DiskStore}

/-- The first call leaves everything for the others.  It finds neither entry, so it keeps the text
and then the solvers, and nothing stands in the way of either. -/
theorem IsFresh.settled (fresh : IsFresh dir identity t)
    (ends : (services dir execute).solve { files := t } identity = (.ok (some s), store)) :
    ∃ p, Settled dir identity s p store.files := by
  have named : CacheKey.resolve dir identity =
      .ok (.ofDigest dir (identityDigest identity)) := by
    obtain ⟨key, named⟩ := named_of_solve ends
    simp only [services] at named
    obtain ⟨nonempty, known⟩ := CacheKey.resolve_eq_ok_iff.mp named
    rw [named, known]
  obtain ⟨p, entries, absent, absent'⟩ := fresh.entries
  have missing := FileCache.get?_of_absent entries.solvers absent'
  have missing' := FileCache.get?_of_absent entries.text absent
  obtain ⟨text, found, files⟩ : ∃ text, SolverSet.ofProgramText text = .ok (some s) ∧
      store.files = (solverCache dir).set
        ((preprocessedCache dir).set t (identityDigest identity) text)
        (identityDigest identity) s := by
    rw [solve_of_named named] at ends
    obtain ⟨source, text, -, -, found, files⟩ :=
      files_of_fromKey { files := t } (.ofDigest dir (identityDigest identity)) missing missing'
        (congrArg Prod.fst ends)
    rw [ends] at files
    exact ⟨text, found, files⟩
  -- Keeping the text leaves directories alone, so that the solvers can be kept after it.
  have entries' := entries.of_same (FileCache.sameDirectories_set entries.text text)
  have there : ((preprocessedCache dir).set t (identityDigest identity) text).node? p.text =
      some (.file (FileCache.content text)) := by
    rw [FileCache.node?_set entries.text, if_pos rfl]
  rw [files]
  exact ⟨p, settled_set named entries' there found⟩

/-- What a later call finds is what the entry reads as, and not what was written. -/
theorem Settled.get?_solvers (settled : Settled dir identity s p t) :
    (solverCache dir).get? t (identityDigest identity) = s.reread := by
  obtain ⟨text, -, found⟩ := settled.text
  rw [FileCache.get?_of_file settled.entries.solvers settled.solvers]
  exact SolverSet.ofText_toEntry (SolverSet.fits_of_ofProgramText found)

/-- **A later call answers what was kept**, as its entry reads, and touches no file.  It runs
nothing either, whatever a transform would do. -/
theorem Settled.solve (settled : Settled dir identity s p t)
    (execute : String → Except PoolError String) :
    ∃ s', s.reread = some s' ∧
      (services dir execute).solve { files := t } identity =
        (.ok (some s'), { files := t }) := by
  have there := settled.get?_solvers
  obtain ⟨text, -, found⟩ := settled.text
  obtain ⟨s', rereads⟩ :=
    SolverSet.exists_reread (SolverSet.fits_of_ofProgramText found).numbers
  rw [rereads] at there
  refine ⟨s', rereads, ?_⟩
  rw [solve_of_named settled.named,
    fromKey_of_solvers { files := t } (.ofDigest dir (identityDigest identity)) there]

end Calls

/-! ## Commands -/

/-- What is answered to a run is the text that it came to. -/
theorem answer_ofResult_eq_ok {result : Except PreprocessError String} {text : String} :
    (Verdict.ofResult result).report.answer = .ok text ↔ result = .ok text := by
  cases result with
  | error e => exact ⟨nofun, nofun⟩
  | ok out => exact ⟨fun same => congrArg _ (Except.ok.inj same), fun same => same ▸ rfl⟩

/-- A command has a script preprocessed by a run that nobody stops. -/
theorem execute_eq_ok (c : Config) {source text : String} :
    Command.execute c source = .ok text ↔
      Prune.run c.maxPayload (fun _ => false) source = .ok text := answer_ofResult_eq_ok

/-- What is left in files after any number of calls for a script, each of a process of its own
and with any settings but the directory. -/
inductive Later (dir identity : String) (t : FileTree) : FileTree → Prop
  | none : Later dir identity t t
  | call (c : Config) (asTree : Bool) {t' : FileTree} (before : Later dir identity t t')
      (same : c.cacheDir = dir) :
    Later dir identity t (Command.solveIn c identity asTree t').files

/-- A command leaves the files that its call leaves, as printing is not their matter. -/
theorem solveIn_of_solve {c : Config} {store : DiskStore} (asTree : Bool)
    (ends : (DiskStore.services c.cacheDir (Command.execute c)).solve { files := t } identity =
      (.ok (some s), store)) :
    Command.solveIn c identity asTree t =
      { output := Command.solverText asTree s ++ "\n", files := store.files } := by
  simp only [Command.solveIn, ends]
  rfl

/-- What is kept stays through any number of calls, each of which finds the entry of solvers and
ends. -/
theorem Settled.later (settled : Settled dir identity s p t) (later : Later dir identity t t') :
    Settled dir identity s p t' := by
  induction later with
  | none => exact settled
  | call c asTree before same ih =>
    subst same
    obtain ⟨s', -, ends⟩ := ih.solve (Command.execute c)
    rw [solveIn_of_solve asTree ends]
    exact ih

/-- **What is found again.**  Once a first call has found solvers, every later one answers the
same: the solvers as their entry reads, with each number in them read again from its text.  These
are the solvers that were found, with the same text in both forms, just if each number comes back
as it was; integers do. -/
theorem solve_persisted {c c' : Config} {store : DiskStore} (fresh : IsFresh c.cacheDir identity t)
    (first : (DiskStore.services c.cacheDir (Command.execute c)).solve { files := t } identity =
      (.ok (some s), store))
    (later : Later c.cacheDir identity store.files t') (same : c'.cacheDir = c.cacheDir) :
    ∃ s', s.reread = some s' ∧
      ((DiskStore.services c'.cacheDir (Command.execute c')).solve { files := t' } identity).1 =
        .ok (some s') ∧
      (∀ asTree,
        (Command.solveIn c identity asTree t).output = Command.solverText asTree s ++ "\n" ∧
        (Command.solveIn c' identity asTree t').output =
          Command.solverText asTree s' ++ "\n") ∧
      (s' = s ↔ ∀ n ∈ s.numbers, n.reread = some n) ∧
      ∀ n ∈ s.numbers, ∀ i, n = .integer i → n.reread = some n := by
  obtain ⟨p, settled⟩ := fresh.settled first
  obtain ⟨text, -, found⟩ := settled.text
  obtain ⟨s', rereads, ends⟩ := (settled.later later).solve (Command.execute c')
  rw [← same] at ends
  refine ⟨s', rereads, congrArg Prod.fst ends, fun asTree => ⟨?_, ?_⟩, ?_, ?_⟩
  · rw [solveIn_of_solve asTree first]
  · rw [solveIn_of_solve asTree ends]
  · rw [← s.reread_eq_self_iff, rereads, Option.some.injEq]
  · rintro n there i rfl
    exact Number.reread_integer ((SolverSet.fits_of_ofProgramText found).numbers _ there)

/-! ## A number that drifts -/

namespace Drift

/-- 6e84 and the numbers after it.  For the first of them the reader is off by one in the last
place, so that each comes back as the next. -/
def near (k : Nat) : Number := .real ⟨false, 6954761532538915 + k, 229⟩

/-- What is written of each is read as the next. -/
theorem reread_near : ∀ k < 3, (near k).reread = some (near (k + 1)) := by decide +kernel

theorem wellFormed_near : ∀ k < 3, (near k).WellFormed := by
  intro k small
  refine ⟨?_, ?_, ?_, .inl ?_⟩
  · show 6954761532538915 + k < 9007199254740992
    omega
  · show Binary64.minExponent ≤ 229
    decide
  · show 229 ≤ Binary64.maxExponent
    decide
  · show 4503599627370496 ≤ 6954761532538915 + k
    omega

variable {n m : Number}

/-- A script with one number in it is pruned to the script with the number that is read. -/
theorem run_script (wellFormed : n.WellFormed) (read : n.reread = some m)
    (size : Prune.checkSize (scriptXy n).text 10000000 = .ok ()) :
    Prune.run 10000000 (fun _ => false) (scriptXy n).text = .ok (scriptXy m).text := by
  rw [Prune.run, size, parse_scriptXy wellFormed read]
  rfl

theorem execute_script (wellFormed : n.WellFormed) (read : n.reread = some m)
    (size : Prune.checkSize (scriptXy n).text 10000000 = .ok ()) :
    Command.execute {} (scriptXy n).text = .ok (scriptXy m).text :=
  (execute_eq_ok {}).mpr (run_script wellFormed read size)

/-- The digest of `p`. -/
def digest : String := "73f291693e31fe77be7bfb78ebc9042b2e2c437c87eca0c122e0e8a0bbfbe625"

/-- The digest that the files of the script are named after. -/
theorem identityDigest_p : identityDigest "p" = digest := by decide +kernel

/-- A cache directory with a script in it. -/
def tree : FileTree :=
  ⟨[(["cache"], .directory),
    (["cache", CacheKey.sourceName digest], .file (Utf8.encode (scriptXy (near 0)).text))]⟩

theorem enters_tree : tree.Enters "cache" ["cache"] := ⟨by decide, by decide, rfl⟩

/-- Nothing but the script is in the directory. -/
theorem node?_tree {name : String} (other : name ≠ CacheKey.sourceName digest) :
    tree.node? (["cache"] ++ [name]) = none := by
  have elsewhere : ["cache", name] ≠ ["cache", CacheKey.sourceName digest] := by simpa using other
  have below : ["cache", name] ≠ ["cache"] := by simp
  have notGiven : FilePlace.isGiven ["cache", name] = false := rfl
  simp [tree, FileTree.node?, notGiven, List.lookup_cons, beq_false_of_ne elsewhere,
    beq_false_of_ne below]

theorem isFresh_tree : IsFresh "cache" "p" tree := by
  refine isFresh_of_enters rfl enters_tree (by decide) fun kind => ⟨?_, ?_⟩
  · exact node?_tree FileCache.entryName_ne_sourceName
  · exact node?_tree (FileCache.temporary_ne_sourceName _)

theorem admits_tree : tree.Admits (CacheKey.ofDigest "cache" digest).sourcePath
    ["cache", CacheKey.sourceName digest] := by
  have named : Path.IsName (CacheKey.sourceName digest) := identityDigest_p ▸ isName_sourceName "p"
  have led : tree.resolve (Path.join "cache" (CacheKey.sourceName digest)) =
      .ok (["cache"] ++ [CacheKey.sourceName digest]) :=
    enters_tree.resolve_join named (by decide) (by decide) (by decide)
  exact ⟨led, Path.endsInSlash_join named _, nofun⟩

theorem loadSource_tree :
    tree.loadSource (CacheKey.ofDigest "cache" digest).sourcePath =
      .ok (scriptXy (near 0)).text := by
  rw [FileTree.loadSource, admits_tree.readText (rfl)]
  rfl

theorem checkSize_script : Prune.checkSize (scriptXy (near 0)).text 10000000 = .ok () := by
  rw [Prune.checkSize, Json.text, utf8ByteSize_ofList]
  decide +kernel

/-- The number that is found is read twice, in the source and in what it is preprocessed to. -/
theorem solve_tree :
    ((DiskStore.services "cache" (Command.execute {})).solve { files := tree } "p").1 =
      .ok (some ⟨solverXy (numberNode (near 2))⟩) := by
  have named : CacheKey.resolve "cache" "p" = .ok (.ofDigest "cache" digest) := by
    rw [← identityDigest_p]
    rfl
  obtain ⟨p, entries, absent, absent'⟩ := isFresh_tree.entries
  rw [identityDigest_p] at entries
  rw [DiskStore.solve_of_named named]
  exact (DiskStore.fromKey_eq_ok_iff { files := tree } (.ofDigest "cache" digest)
    (FileCache.get?_of_absent entries.solvers absent')
    (FileCache.get?_of_absent entries.text absent)).mpr ⟨_, _, loadSource_tree,
      execute_script (wellFormed_near 0 (by decide)) (reread_near 0 (by decide)) checkSize_script,
      ofProgramText_scriptXy (wellFormed_near 1 (by decide)) (reread_near 1 (by decide))⟩

/-- The number that comes back is another. -/
theorem reread_solvers_near :
    (⟨solverXy (numberNode (near 2))⟩ : SolverSet).reread =
      some ⟨solverXy (numberNode (near 3))⟩ := by
  have drifts : (near 2).reread = some (near 3) := reread_near 2 (by decide)
  simp [SolverSet.reread, Solver.reread, solverXy, Argument.reread, numberNode,
    identifierNode, Json.reread, Json.rereadMembers, drifts]

/-- A first call finds one number, and the next another. -/
theorem persisted_tree :
    IsFresh "cache" "p" tree ∧ ∃ store,
      (DiskStore.services "cache" (Command.execute {})).solve { files := tree } "p" =
        (.ok (some ⟨solverXy (numberNode (near 2))⟩), store) ∧
      ((DiskStore.services "cache" (Command.execute {})).solve { files := store.files } "p").1 =
        .ok (some ⟨solverXy (numberNode (near 3))⟩) := by
  have fresh : IsFresh (Config.cacheDir {}) "p" tree := isFresh_tree
  have same : Config.cacheDir {} = Config.cacheDir {} := rfl
  obtain ⟨s', rereads, again, -⟩ := solve_persisted fresh (Prod.ext solve_tree rfl) .none same
  rw [reread_solvers_near, Option.some.injEq] at rereads
  subst rereads
  exact ⟨isFresh_tree, _, Prod.ext solve_tree rfl, again⟩

/-- So a later call need not find what the first one found: the number is read as the next one once
more. -/
theorem not_persisted :
    ¬ ∀ (c c' : Config) (identity : String) (t t' : FileTree) (s : SolverSet) (store : DiskStore),
      c.problems = [] → c'.problems = [] → IsFresh c.cacheDir identity t →
      (DiskStore.services c.cacheDir (Command.execute c)).solve { files := t } identity =
        (.ok (some s), store) →
      Later c.cacheDir identity store.files t' → c'.cacheDir = c.cacheDir →
      ((DiskStore.services c'.cacheDir (Command.execute c')).solve { files := t' } identity).1 =
        .ok (some s) := by
  intro all
  have first := solve_tree
  obtain ⟨p, settled⟩ := isFresh_tree.settled (Prod.ext first rfl)
  obtain ⟨s', rereads, ends⟩ := settled.solve (Command.execute {})
  rw [reread_solvers_near, Option.some.injEq] at rereads
  subst rereads
  have same := all {} {} "p" tree _ _ _ rfl rfl isFresh_tree (Prod.ext first rfl) .none rfl
  rw [show Config.cacheDir {} = "cache" from rfl, ends] at same
  have other : near 3 ≠ near 2 := by decide
  simp [solverXy, numberNode, other] at same

end Drift

end Decipher
