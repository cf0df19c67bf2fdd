import Decipher.Proofs.Pipeline.Shelf

/-!
# Entries that are misses

An entry can be of no use to a call in many ways (`FileCache.Unusable`): it is not there, it is
no file, its bytes are no text, or its text is none of a value.  Whatever is wrong with it, the
call does what it would do if the entry were not there.  It finds out anew what it needs, nobody
is told, and what it keeps takes the place of the entry, if it can be written.

* `Holds`: that the entries of a script hold a text and solvers.
* `fromKey_eq_of_source`, `fromKey_eq_of_text`: what two calls answer that find no solvers.
* `holds_of_source`, `holds_of_text`: what such a call keeps.
* `solve_of_unusable`: calls do not see entries that are of no use.

The two entries are independent: either can be of no use while the other is sound.  If the solvers
are, the call ends with them, and nothing is asked of the text; so only the two cases are left in
which the solvers are of no use.  What is kept is told apart from what is answered, since keeping
may fail, which a call does not tell.
-/

namespace Decipher

namespace DiskStore

variable {dir identity : String} {execute : String → Except PoolError String}
  {t : FileTree} {s : SolverSet} {text : String}

/-! ## What is kept -/

/-- That the entries of a script hold a text and solvers.  Of the solvers it is the text that is
said, since they may be read as others than were written. -/
structure Holds (dir digest text : String) (s : SolverSet) (t : FileTree) : Prop where
  text : (preprocessedCache dir).load t digest = .ok (some text)
  solvers : t.readText ((solverCache dir).entryPath digest) = .ok (Storable.toText s)

/-- Solvers that were written stand beside the text that stood there before. -/
theorem holds_of_save
    (there : (preprocessedCache dir).load t (identityDigest identity) = .ok (some text))
    (saved : ((solverCache dir).save t (identityDigest identity) s).2 = .ok ()) :
    Holds dir (identityDigest identity) text s
      ((solverCache dir).save t (identityDigest identity) s).1 := by
  obtain ⟨entry, stands, reads⟩ := FileCache.readText_of_load there
  rw [FileCache.entryPath_eq] at stands
  refine ⟨?_, FileCache.readText_of_save saved⟩
  exact FileCache.load_of_readText (FileCache.readText_of_save_other saved
    (isName_solvers dir identity) (isName_preprocessed dir identity)
    (preprocessedName_ne_solversName dir identity identity)
    (FileCache.entryName_ne_temporary _) stands) reads

/-- A text that was saved is read back as it is: it is kept as a JSON string, and no text is lost in
its quotation. -/
theorem load_of_save
    (saved : ((preprocessedCache dir).save t (identityDigest identity) text).2 = .ok ()) :
    (preprocessedCache dir).load ((preprocessedCache dir).save t (identityDigest identity) text).1
      (identityDigest identity) = .ok (some text) :=
  FileCache.load_of_readText (FileCache.readText_of_save saved) (Storable.ofText_toText_eq_ok text)

/-! ## From a key -/

section Key

variable {key : CacheKey} {store bare : DiskStore}

/-- Without entries there is nothing to tell two stores apart but their sources. -/
theorem fromKey_eq_of_source (same : bare.source key = store.source key)
    (missing : (solverCache dir).get? store.files key.digest = none)
    (gone : (preprocessedCache dir).get? store.files key.digest = none)
    (missing' : (solverCache dir).get? bare.files key.digest = none)
    (gone' : (preprocessedCache dir).get? bare.files key.digest = none) :
    ((services dir execute).fromKey store key).1 = ((services dir execute).fromKey bare key).1 := by
  rw [fromKey_of_none store key missing gone, fromKey_of_none bare key missing' gone', same]

/-- A text that is there in both stores says what both calls answer, whatever their sources are. -/
theorem fromKey_eq_of_text
    (missing : (solverCache dir).get? store.files key.digest = none)
    (there : (preprocessedCache dir).load store.files key.digest = .ok (some text))
    (missing' : (solverCache dir).get? bare.files key.digest = none)
    (there' : (preprocessedCache dir).load bare.files key.digest = .ok (some text)) :
    ((services dir execute).fromKey store key).1 = ((services dir execute).fromKey bare key).1 := by
  rw [fromKey_of_text store key missing (FileCache.get?_of_load there),
    fromKey_of_text bare key missing' (FileCache.get?_of_load there'),
    Services.fromText_fst, Services.fromText_fst]

variable (digested : identityDigest identity = key.digest)

include digested

/-- Solvers that are found without entries are kept, after the text that they are in.  The second
save leaves the entry of the first alone, so that both hold in the end. -/
theorem holds_of_source
    (missing : (solverCache dir).get? store.files key.digest = none)
    (gone : (preprocessedCache dir).get? store.files key.digest = none)
    (ends : ((services dir execute).fromKey store key).1 = .ok (some s)) :
    ∃ source text t t', store.source key = .ok source ∧
      execute source = .ok text ∧ SolverSet.ofProgramText text = .ok (some s) ∧
      t = (preprocessedCache dir).save store.files key.digest text ∧
      t' = (solverCache dir).save t.1 key.digest s ∧
      ((services dir execute).fromKey store key).2.files = t'.1 ∧
      (t.2 = .ok () → t'.2 = .ok () → Holds dir key.digest text s t'.1) := by
  obtain ⟨source, text, loads, runs, found, files⟩ := files_of_fromKey store key missing gone ends
  refine ⟨source, text, _, _, loads, runs, found, rfl, rfl, files, ?_⟩
  rw [← digested]
  exact fun saved => holds_of_save (load_of_save saved)

/-- Solvers that are found in a text are kept beside it. -/
theorem holds_of_text
    (missing : (solverCache dir).get? store.files key.digest = none)
    (there : (preprocessedCache dir).load store.files key.digest = .ok (some text))
    (ends : ((services dir execute).fromKey store key).1 = .ok (some s)) :
    ∃ t, t = (solverCache dir).save store.files key.digest s ∧
      ((services dir execute).fromKey store key).2.files = t.1 ∧
      (t.2 = .ok () → Holds dir key.digest text s t.1) := by
  rw [fromKey_of_text store key missing (FileCache.get?_of_load there)] at ends ⊢
  refine ⟨_, rfl, files_of_fromText store key ends, ?_⟩
  rw [← digested] at there ⊢
  exact holds_of_save there

end Key

/-! ## From an identity -/

/-- A blank identity has no key, and nothing is looked for. -/
theorem solve_of_unnamed {e : ResolutionError} (unnamed : CacheKey.resolve dir identity = .error e)
    (store : DiskStore) :
    (services dir execute).solve store identity = (.error (.resolution e), store) := by
  rw [Services.solve_eq]
  simp only [services, unnamed]

/-- **Entries that are of no use are misses.**  Let the entry of solvers for a script be of no use
in one store and absent in another, and let both have the same source.  If the text is of no use
either, and absent in the other store, a call answers the same in both; and so it does if both
have the same text.  Solvers that are found are kept beside their text, in the stead of what was of
no use, as long as what is kept can be written. -/
theorem solve_of_unusable (dir identity : String) (execute : String → Except PoolError String)
    {store bare : DiskStore}
    (same : bare.source (.ofDigest dir (identityDigest identity)) =
      store.source (.ofDigest dir (identityDigest identity)))
    (unusable : (solverCache dir).Unusable store.files (identityDigest identity))
    (absent : (solverCache dir).Absent bare.files (identityDigest identity)) :
    ((preprocessedCache dir).Unusable store.files (identityDigest identity) →
      ((preprocessedCache dir).Absent bare.files (identityDigest identity) →
        ((services dir execute).solve store identity).1 =
          ((services dir execute).solve bare identity).1) ∧
      ∀ s, ((services dir execute).solve store identity).1 = .ok (some s) →
        ∃ source text t t', store.source (.ofDigest dir (identityDigest identity)) = .ok source ∧
          execute source = .ok text ∧ SolverSet.ofProgramText text = .ok (some s) ∧
          t = (preprocessedCache dir).save store.files (identityDigest identity) text ∧
          t' = (solverCache dir).save t.1 (identityDigest identity) s ∧
          ((services dir execute).solve store identity).2.files = t'.1 ∧
          (t.2 = .ok () → t'.2 = .ok () → Holds dir (identityDigest identity) text s t'.1)) ∧
    ∀ text, (preprocessedCache dir).load store.files (identityDigest identity) = .ok (some text) →
      ((preprocessedCache dir).load bare.files (identityDigest identity) = .ok (some text) →
        ((services dir execute).solve store identity).1 =
          ((services dir execute).solve bare identity).1) ∧
      ∀ s, ((services dir execute).solve store identity).1 = .ok (some s) →
        ∃ t, t = (solverCache dir).save store.files (identityDigest identity) s ∧
          ((services dir execute).solve store identity).2.files = t.1 ∧
          (t.2 = .ok () → Holds dir (identityDigest identity) text s t.1) := by
  -- A call only learns that nothing was found, and not why.
  have missing := FileCache.get?_eq_none_iff.mpr unusable
  have missing' := absent.get?
  cases named : CacheKey.resolve dir identity with
  | error e =>
    simp only [solve_of_unnamed named, implies_true, and_self, reduceCtorEq, false_implies]
  | ok key =>
    have keyed := (CacheKey.resolve_eq_ok_iff.mp named).2
    have digested : identityDigest identity = key.digest := by rw [keyed, CacheKey.ofDigest]
    rw [← keyed] at same ⊢
    rw [digested] at missing missing' ⊢
    simp only [solve_of_named named]
    refine ⟨fun unusable' => ?_, fun text there => ?_⟩
    · have gone := FileCache.get?_eq_none_iff.mpr unusable'
      exact ⟨fun absent' => fromKey_eq_of_source same missing gone missing' absent'.get?,
        fun s => holds_of_source digested missing gone⟩
    · exact ⟨fromKey_eq_of_text missing there missing',
        fun s => holds_of_text digested missing there⟩

end DiskStore

/-! ## Spoilt entries -/

namespace Drift

/-- A cache directory with a script in it, and with entries that hold no text and no JSON.  Both
count as missing, so that the script is worked on as if it were new. -/
def spoilt : FileTree :=
  ⟨(["cache", digest ++ ".preprocessed.json"], .file (Utf8.encode "nope")) ::
    (["cache", digest ++ ".solvers.json"], .file ⟨#[255]⟩) :: tree.entries⟩

theorem sameDirectories_spoilt : FileTree.SameDirectories tree spoilt := by
  have made : spoilt = (tree.put ["cache", digest ++ ".solvers.json"] (.file ⟨#[255]⟩)).put
      ["cache", digest ++ ".preprocessed.json"] (.file (Utf8.encode "nope")) := (rfl)
  have missing : tree.node? ["cache", digest ++ ".solvers.json"] = none := by decide +kernel
  rw [made]
  exact (FileTree.sameDirectories_put _ (by simp [missing])).trans
    (FileTree.sameDirectories_put _ nofun)

theorem loadSource_spoilt :
    spoilt.loadSource (CacheKey.ofDigest "cache" digest).sourcePath =
      .ok (scriptXy (near 0)).text := by
  have admits := admits_tree.of_same sameDirectories_spoilt
  rw [FileTree.loadSource, admits.readText (rfl)]
  rfl

theorem unusable_text : (DiskStore.preprocessedCache "cache").Unusable spoilt digest :=
  FileCache.get?_eq_none_iff.mp (by decide +kernel)

/-- The other is no text to begin with, as no character begins with its only byte. -/
theorem unusable_solvers : (DiskStore.solverCache "cache").Unusable spoilt digest :=
  .unreadable .notText (by decide +kernel)

section Spoilt

open DiskStore

/-- The solvers are found in the source. -/
theorem solve_spoilt :
    ((services "cache" .ok).solve { files := spoilt } "p").1 =
      .ok (some ⟨solverXy (numberNode (near 1))⟩) := by
  have named : CacheKey.resolve "cache" "p" = .ok (.ofDigest "cache" digest) := by
    rw [← identityDigest_p]
    rfl
  have loads : source { files := spoilt } (.ofDigest "cache" digest) =
      .ok (scriptXy (near 0)).text := loadSource_spoilt
  have found := ofProgramText_scriptXy (wellFormed_near 0 (by decide)) (reread_near 0 (by decide))
  rw [solve_of_named named]
  exact (fromKey_eq_ok_iff { files := spoilt } (.ofDigest "cache" digest)
    (FileCache.get?_eq_none_iff.mpr unusable_solvers)
    (FileCache.get?_eq_none_iff.mpr unusable_text)).mpr ⟨_, _, loads, rfl, found⟩

/-- Whatever is kept can be written. -/
theorem save_spoilt (text : String) (s : SolverSet) :
    ((preprocessedCache "cache").save spoilt (identityDigest "p") text).2 = .ok () ∧
      ((solverCache "cache").save
        ((preprocessedCache "cache").save spoilt (identityDigest "p") text).1
        (identityDigest "p") s).2 = .ok () := by
  have writable : Writable "cache" spoilt := ⟨rfl, by decide⟩
  have free (kind : EntryKind) : kind.Free "cache" spoilt "p" :=
    (isFresh_tree.free kind).of_same sameDirectories_spoilt
  obtain ⟨_, -, keeps⟩ := writable.keeps (free .text)
  have same := FileCache.sameDirectories_save keeps.receives text
  obtain ⟨_, -, keeps'⟩ := (writable.of_same same).keeps ((free .solvers).of_same same)
  constructor
  · exact congrArg Prod.snd (FileCache.save_of_receives keeps.receives text)
  · exact congrArg Prod.snd (FileCache.save_of_receives keeps'.receives s)

/-- A call answers as if the entries were not there, and puts others in their stead. -/
theorem holds_spoilt :
    ((services "cache" .ok).solve { files := spoilt } "p").1 =
        ((services "cache" .ok).solve { files := tree } "p").1 ∧
      ∃ text, Holds "cache" digest text ⟨solverXy (numberNode (near 1))⟩
        ((services "cache" .ok).solve { files := spoilt } "p").2.files := by
  have same : source { files := tree } (.ofDigest "cache" (identityDigest "p")) =
      source { files := spoilt } (.ofDigest "cache" (identityDigest "p")) := by
    rw [identityDigest_p]
    exact loadSource_tree.trans loadSource_spoilt.symm
  have unusable : (solverCache "cache").Unusable spoilt (identityDigest "p") :=
    identityDigest_p ▸ unusable_solvers
  have unusable' : (preprocessedCache "cache").Unusable spoilt (identityDigest "p") :=
    identityDigest_p ▸ unusable_text
  have absent : (solverCache "cache").Absent tree (identityDigest "p") :=
    isFresh_tree.absent .solvers
  have absent' : (preprocessedCache "cache").Absent tree (identityDigest "p") :=
    isFresh_tree.absent .text
  have misses := (solve_of_unusable "cache" "p" .ok same unusable absent).1 unusable'
  obtain ⟨source, text, t, t', -, -, -, made, made', files, holds⟩ := misses.2 _ solve_spoilt
  obtain ⟨saved, saved'⟩ := save_spoilt text ⟨solverXy (numberNode (near 1))⟩
  rw [← made] at saved saved'
  rw [← made'] at saved'
  refine ⟨misses.1 absent', text, ?_⟩
  rw [files, ← identityDigest_p]
  exact holds saved saved'

end Spoilt

end Drift

end Decipher
