import Decipher.Proofs.Pipeline.Miss

/-!
# In one step or in two

The solvers of a script can be had by one command, which keeps what it finds in caches, or by two,
with a file between them: one preprocesses the script, and the other extracts the solvers.  Where
the caches have nothing to offer, both ways print the same, and fail on the same scripts.

* `PrintFor`: what is to be printed for a script, said without commands.
* `prints_solveIn_iff_yields`, `deliver_iff`, `prints_extract_iff`: what each of the commands comes
  to.
* `prints_two_steps_iff`: so the two ways agree.

All that the two ways have in common is in `PrintFor`, and each is compared with it and not with
the other: the one command by what a call answers without entries (`Proofs.Pipeline.Disk`), the two
by what the file between them holds.  The only thing that can go wrong in two steps alone is that
file, as it has to be written; so this is the one condition that remains.  It may be any file, even
the script itself: it is read before it is written.
-/

namespace Decipher

/-- That a command succeeds and prints a text.  A command ends its text with a line break of its
own. -/
structure CommandOutcome.Prints (o : CommandOutcome) (text : String) : Prop where
  succeeds : o.failure = none
  output : o.output = text ++ "\n"

theorem FileTree.readText_of_read {t : FileTree} {path text : String} {content : ByteArray}
    (holds : t.read path = .ok content) :
    t.readText path = .ok text ↔ Utf8.decode? content = some text := by
  rw [readText, holds]
  cases decodes : Utf8.decode? content <;> simp only [decodes, reduceCtorEq, Except.ok.injEq,
    Option.some.injEq]

/-- A process starts with empty memory, and so it takes for a source what the file of the script
holds. -/
theorem DiskStore.source_eq_ok_iff {t : FileTree} {key : CacheKey} {content : ByteArray}
    (holds : t.read key.sourcePath = .ok content) {text : String} :
    source { files := t } key = .ok text ↔ Utf8.decode? content = some text := by
  rw [← FileTree.readText_of_read holds, source]
  show t.loadSource key.sourcePath = .ok text ↔ _
  rw [FileTree.loadSource, mapError_eq_ok]

namespace Command

variable {env : Environment} {t t' : FileTree} {c : Config} {config cacheDir : Option String}
  {identity file out text dir : String} {asTree : Bool} {content : ByteArray}

/-- **What is to be printed for a script**: it is preprocessed to a text with solvers in it, and
these are printed so. -/
def PrintFor (c : Config) (asTree : Bool) (content : ByteArray) (text : String) : Prop :=
  ∃ source program s, Utf8.decode? content = some source ∧ execute c source = .ok program ∧
    SolverSet.ofProgramText program = .ok (some s) ∧ solverText asTree s = text

/-- That the built-in templates are as they should be.  Every command that does work checks this
before it reads a script. -/
def TemplatesFit : Prop := ∃ size, checkTemplates = .ok size

/-- A command prints what it came to, on a line of its own, and a command that failed prints
nothing. -/
theorem prints_finish_iff {result : Except CommandFailure String} :
    (finish t result).Prints text ↔ result = .ok text := by
  cases result with
  | error e =>
    refine iff_of_false ?_ nofun
    rintro ⟨succeeds, -⟩
    cases succeeds
  | ok text' =>
    rw [Except.ok.injEq]
    constructor
    · rintro ⟨-, output⟩
      have chars := congrArg String.toList output
      simp only [finish, String.toList_append] at chars
      exact String.toList_inj.mp (List.append_cancel_right chars)
    · rintro rfl
      exact ⟨rfl, rfl⟩

/-! ## One command -/

/-- The one command prints the solvers that its call answers, in the form that is asked for. -/
theorem prints_solveIn_iff :
    (solveIn c identity asTree t).Prints text ↔
      ∃ s, ((DiskStore.services c.cacheDir (execute c)).solve { files := t } identity).1 =
        .ok (some s) ∧ solverText asTree s = text := by
  rw [solveIn]
  obtain ⟨solution, store⟩ :=
    (DiskStore.services c.cacheDir (execute c)).solve { files := t } identity
  dsimp only
  split
  · simp only [prints_finish_iff, reduceCtorEq, false_and, exists_false]
  · simp only [prints_finish_iff, reduceCtorEq, Except.ok.injEq, false_and, exists_false]
  · rename_i solvers
    simp only [prints_finish_iff, Except.ok.injEq, Option.some.injEq, exists_eq_left']

/-- A command that finds nothing in its caches prints what the source yields.  It finds nothing as
long as its entries are of no use, whatever is wrong with them. -/
theorem prints_solveIn_iff_yields (named : (trim identity).isEmpty = false)
    (noText : (DiskStore.preprocessedCache c.cacheDir).Unusable t (identityDigest identity))
    (noSolvers : (DiskStore.solverCache c.cacheDir).Unusable t (identityDigest identity))
    (holds : t.read (Path.join c.cacheDir (CacheKey.sourceName (identityDigest identity))) =
      .ok content) :
    (solveIn c identity asTree t).Prints text ↔ PrintFor c asTree content text := by
  obtain ⟨key, resolved⟩ : ∃ key, CacheKey.resolve c.cacheDir identity = .ok key :=
    ⟨_, CacheKey.resolve_eq_ok_iff.mpr ⟨named, rfl⟩⟩
  have keyed := (CacheKey.resolve_eq_ok_iff.mp resolved).2
  have digested : identityDigest identity = key.digest := by rw [keyed, CacheKey.ofDigest]
  have placed : Path.join c.cacheDir (CacheKey.sourceName (identityDigest identity)) =
      key.sourcePath := by rw [keyed, CacheKey.ofDigest]
  rw [digested] at noText noSolvers
  rw [placed] at holds
  have finds (s : SolverSet) :
      ((DiskStore.services c.cacheDir (execute c)).solve { files := t } identity).1 =
        .ok (some s) ↔
      ∃ source program, DiskStore.source { files := t } key = .ok source ∧
        execute c source = .ok program ∧ SolverSet.ofProgramText program = .ok (some s) := by
    rw [DiskStore.solve_of_named resolved]
    exact DiskStore.fromKey_eq_ok_iff { files := t } key (FileCache.get?_eq_none_iff.mpr noSolvers)
      (FileCache.get?_eq_none_iff.mpr noText)
  rw [prints_solveIn_iff, PrintFor]
  constructor
  · rintro ⟨s, ends, printed⟩
    obtain ⟨source', program, loads, runs, found⟩ := (finds s).mp ends
    exact ⟨source', program, s, (DiskStore.source_eq_ok_iff holds).mp loads, runs, found, printed⟩
  · rintro ⟨source', program, s, decodes, runs, found, printed⟩
    have loads := (DiskStore.source_eq_ok_iff holds).mpr decodes
    exact ⟨s, (finds s).mpr ⟨source', program, loads, runs, found⟩, printed⟩

/-! ## The other two -/

theorem readNamedFile_eq_ok_iff : readNamedFile t file = .ok text ↔ t.readText file = .ok text := by
  rw [readNamedFile, mapError_eq_ok]

/-- The solvers in a file are printed if the templates are as they should be, which is looked at
first. -/
theorem extractFrom_eq_ok_iff :
    extractFrom file asTree t = .ok text ↔
      TemplatesFit ∧ ∃ program s, t.readText file = .ok program ∧
        SolverSet.ofProgramText program = .ok (some s) ∧ solverText asTree s = text := by
  rw [extractFrom, TemplatesFit]
  simp only [bind_eq_ok, readNamedFile_eq_ok_iff, exists_and_right, exists_and_left]
  refine and_congr_right fun _ => exists_congr fun program => and_congr_right fun _ => ?_
  cases SolverSet.ofProgramText program with
  | error e => exact iff_of_false nofun nofun
  | ok solvers =>
    cases solvers with
    | none => exact iff_of_false nofun nofun
    | some s => simp [pure, Except.pure]

/-- So the second of the two commands prints the solvers that are in its file. -/
theorem prints_extract_iff :
    (run env t (.extract file asTree)).Prints text ↔
      TemplatesFit ∧ ∃ program s, t.readText file = .ok program ∧
        SolverSet.ofProgramText program = .ok (some s) ∧ solverText asTree s = text := by
  rw [run, prints_finish_iff, plain, mapError_eq_ok, extractFrom_eq_ok_iff]

/-- A script prints what can be extracted from its preprocessed form.  This is where both ways to
the solvers meet. -/
theorem yields_iff (holds : t.read file = .ok content) :
    PrintFor c asTree content text ↔
      ∃ program s, preprocessedForm c file t = .ok program ∧
        SolverSet.ofProgramText program = .ok (some s) ∧ solverText asTree s = text := by
  have form (program : String) : preprocessedForm c file t = .ok program ↔
      ∃ source, Utf8.decode? content = some source ∧ execute c source = .ok program := by
    rw [preprocessedForm]
    simp only [bind_eq_ok, mapError_eq_ok, readNamedFile_eq_ok_iff,
      FileTree.readText_of_read holds]
  constructor
  · rintro ⟨source, program, s, decodes, runs, found⟩
    exact ⟨program, s, (form program).mpr ⟨source, decodes, runs⟩, found⟩
  · rintro ⟨program, s, formed, found⟩
    obtain ⟨source, decodes, runs⟩ := (form program).mp formed
    exact ⟨source, program, s, decodes, runs, found⟩

/-- A text can be read back from where it was delivered to, and it can be delivered to any place
where a file can stand. -/
theorem deliver_iff {program : String} :
    ((deliver (some out) program t).failure = none ↔ ∃ place, t.Admits out place) ∧
    ((deliver (some out) program t).failure = none →
      (deliver (some out) program t).files.readText out = .ok program) := by
  rw [deliver]
  cases writes : t.write out (Utf8.encode program) with
  | error e =>
    refine ⟨iff_of_false nofun ?_, nofun⟩
    rintro ⟨place, admits⟩
    rw [FileTree.write_of_admits admits] at writes
    cases writes
  | ok t' =>
    exact ⟨iff_of_true rfl (FileTree.admits_of_write writes),
      fun _ => FileTree.readText_of_write writes⟩

/-! ## The two ways -/

/-- **The two ways agree.**  Let a script stand in the cache directory, with no entries that are of
use, and in another file.  To preprocess that file into a third one and to extract from it
succeeds, and prints a text, just if the one command does for the script; only that the third file
has to be one that can be written. -/
theorem prints_two_steps_iff (env : Environment) (t : FileTree) (config cacheDir : Option String)
    (identity file out text : String) (asTree : Bool) {c : Config} {content : ByteArray}
    (settled : settings env t config = .ok c) (named : (trim identity).isEmpty = false)
    (noText : (DiskStore.preprocessedCache (cacheDir.getD c.cacheDir)).Unusable t
      (identityDigest identity))
    (noSolvers : (DiskStore.solverCache (cacheDir.getD c.cacheDir)).Unusable t
      (identityDigest identity))
    (stored : t.read (Path.join (cacheDir.getD c.cacheDir)
      (CacheKey.sourceName (identityDigest identity))) = .ok content)
    (given : t.read file = .ok content) :
    (run env t (.preprocess file (some out) config)).failure = none ∧
        (run env (run env t (.preprocess file (some out) config)).files
          (.extract out asTree)).Prints text ↔
      (run env t (.solve identity config cacheDir asTree)).Prints text ∧
        ∃ place, t.Admits out place := by
  rw [prints_extract_iff]
  simp only [run, withSettings, settled, TemplatesFit]
  cases checkTemplates with
  | error message =>
    -- Templates that are not as they should be stop both ways, whatever the script.
    exact iff_of_false nofun fun ⟨prints, _⟩ => nomatch prints.succeeds
  | ok size =>
    have fits : ∃ size', (.ok size : Except String Nat) = .ok size' := ⟨size, rfl⟩
    have yields : (solveIn { c with cacheDir := cacheDir.getD c.cacheDir } identity asTree t).Prints
        text ↔ PrintFor c asTree content text :=
      prints_solveIn_iff_yields named noText noSolvers stored
    simp only [fits, true_and]
    rw [yields, yields_iff given]
    cases preprocessedForm c file t with
    | error message => exact iff_of_false nofun (by simp)
    | ok program =>
      simp only [Except.ok.injEq, deliver_iff.1]
      constructor
      · rintro ⟨writable, program', s, reads, found⟩
        rw [deliver_iff.2 (deliver_iff.1.mpr writable)] at reads
        cases reads
        exact ⟨⟨program, s, rfl, found⟩, writable⟩
      · rintro ⟨⟨_, s, rfl, found⟩, writable⟩
        exact ⟨writable, program, s, deliver_iff.2 (deliver_iff.1.mpr writable), found⟩

end Command

namespace Drift

open Command

theorem templatesFit : TemplatesFit := ⟨_, rfl⟩

theorem read_tree : tree.read (CacheKey.ofDigest "cache" digest).sourcePath =
    .ok (Utf8.encode (scriptXy (near 0)).text) := by
  rw [FileTree.read, admits_tree.find rfl]

/-- No settings are given, and the cache directory is the one that is built in. -/
theorem run_solve_tree : run [] tree (.solve "p" none none true) = solveIn {} "p" true tree := by
  obtain ⟨size, fits⟩ := templatesFit
  have settled : settings [] tree none = .ok {} := rfl
  rw [run, withSettings, settled]
  simp only [fits]
  rfl

/-- The script can be preprocessed to a file of its own. -/
theorem prints_two_steps_tree :
    (run [] tree (.preprocess (CacheKey.ofDigest "cache" digest).sourcePath (some "out")
      none)).failure = none ∧
    (run [] (run [] tree (.preprocess (CacheKey.ofDigest "cache" digest).sourcePath (some "out")
      none)).files (.extract "out" true)).Prints
        (solverText true ⟨solverXy (numberNode (near 2))⟩) := by
  have prints : (run [] tree (.solve "p" none none true)).Prints
      (solverText true ⟨solverXy (numberNode (near 2))⟩) := by
    rw [run_solve_tree]
    exact prints_solveIn_iff.mpr ⟨_, solve_tree, rfl⟩
  have unusable : (DiskStore.preprocessedCache "cache").Unusable tree (identityDigest "p") :=
    (isFresh_tree.absent .text).unusable
  have unusable' : (DiskStore.solverCache "cache").Unusable tree (identityDigest "p") :=
    (isFresh_tree.absent .solvers).unusable
  have stored : tree.read (Path.join "cache" (CacheKey.sourceName (identityDigest "p"))) =
      .ok (Utf8.encode (scriptXy (near 0)).text) := by
    rw [identityDigest_p]
    exact read_tree
  exact (prints_two_steps_iff [] tree none none "p" _ "out" _ true rfl rfl unusable unusable' stored
    read_tree).mpr ⟨prints, ["out"], by decide +kernel, by decide +kernel, nofun⟩

end Drift

end Decipher
