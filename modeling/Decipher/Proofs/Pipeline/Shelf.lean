import Decipher.Proofs.Pipeline.Persistence

/-!
# Files as good as memory

The entries of all scripts share a directory with each other, with the files that they are written
to first, and with the sources of the scripts.  None of them gets in the way of another: what is
put into an entry is found there again, until something else is put there, and nothing else
changes.  So the caches in a directory answer what memory caches would, one for each kind.

* `Writable`, `EntryKind.Free`: that entries can be written.
* `get?_put`, `get?_put_other`: what is found after an entry was written.
* `CacheRecord.Clean`: that a request has done no more than it was to.
* `Shelf.run_disk_eq_memory`: files are as good as memory.

Two conditions cannot be done without.  A value has to be what its text reads as, or else the file
answers another value than memory (`Proofs.Pipeline.Persistence` has one); and nothing may stand in
the way of a file, or else it cannot be written, which a cache does not tell.  Both are asked of
the requests that write and at the first tree only (`CacheRequest.Lasts`): they last, since a
request makes no directory.

The names that keep entries apart are in `Proofs.Cache.Names`: no name of an entry, with or without
the ending of a temporary file, is one of another kind, of another digest or of a source.
-/

namespace Decipher

/-! ## Directories for entries -/

/-- That entries can be written in a directory: it is there, and its path is short enough.  The
bytes that are left have room for the name of any temporary file. -/
structure Writable (dir : String) (t : FileTree) : Prop where
  directory : t.isDirectory dir = true
  short : dir.utf8ByteSize + 87 < FileTree.pathLimit

/-- That no directory stands where an entry is to be written, or where it is written first.  Files
may stand there; they are replaced. -/
structure EntryKind.Free (kind : EntryKind) (dir : String) (t : FileTree) (identity : String) :
    Prop where
  entry : t.isDirectory ((kind.cache dir).entryPath (identityDigest identity)) = false
  temporary : t.isDirectory
    (FileCache.temporaryPath ((kind.cache dir).entryPath (identityDigest identity))) = false

section Writable

variable {dir identity identity' : String} {t t' : FileTree} {kind kind' : EntryKind}

theorem Writable.of_same (writable : Writable dir t) (same : FileTree.SameDirectories t t') :
    Writable dir t' :=
  ⟨same.isDirectory writable.directory, writable.short⟩

theorem EntryKind.Free.of_same (free : kind.Free dir t identity)
    (same : FileTree.SameDirectories t t') : kind.Free dir t' identity := by
  have still {path : String} (none : t.isDirectory path = false) :
      t'.isDirectory path = false := by
    rw [Bool.eq_false_iff] at none ⊢
    exact fun there => none (same.symm.isDirectory there)
  exact ⟨still free.entry, still free.temporary⟩

/-- An entry is written at the place of its name in the directory, and before that at the place of
this name with `.tmp` behind it. -/
theorem Writable.keeps (writable : Writable dir t) (free : kind.Free dir t identity) :
    ∃ base, t.Enters dir base ∧ (kind.cache dir).Keeps t (identityDigest identity)
      (base ++ [kind.fileName identity ++ ".tmp"]) (base ++ [kind.fileName identity]) := by
  obtain ⟨base, enters⟩ := FileTree.enters_of_isDirectory writable.directory
  have size := kind.utf8ByteSize_fileName_le identity
  have short := writable.short
  have longest : FileTree.maxNameLength = 255 := rfl
  refine ⟨base, enters, ?_⟩
  rw [← kind.entryName_cache dir identity] at size ⊢
  refine FileCache.keeps_of_enters (kind.cache dir) ?_ ?_ ?_ ?_ ?_ ?_ free.entry free.temporary
  · rw [kind.entryName_cache]
    exact kind.isName_fileName identity
  · rw [kind.entryName_cache]
    exact kind.noNul_fileName identity
  · omega
  · rw [kind.dir_cache]
    omega
  · rw [kind.dir_cache]
    exact writable.directory
  · rw [kind.dir_cache]
    exact enters

/-- If nothing was kept yet for a script, it has no entries, and they can be written. -/
theorem IsFresh.keeps (fresh : IsFresh dir identity t) (kind : EntryKind) :
    ∃ temporary entry, (kind.cache dir).Keeps t (identityDigest identity) temporary entry ∧
      t.node? entry = none := by
  cases kind with
  | text =>
    exact FileCache.keeps_of_free (isName_preprocessed dir identity) fresh.directory fresh.text
  | solvers =>
    exact FileCache.keeps_of_free (isName_solvers dir identity) fresh.directory fresh.solvers

theorem IsFresh.absent (fresh : IsFresh dir identity t) (kind : EntryKind) :
    (kind.cache dir).Absent t (identityDigest identity) := by
  obtain ⟨temporary, entry, keeps, missing⟩ := fresh.keeps kind
  exact keeps.absent missing

/-- Nothing is in the way of the entries of a script for which nothing was kept. -/
theorem IsFresh.free (fresh : IsFresh dir identity t) (kind : EntryKind) :
    kind.Free dir t identity := by
  obtain ⟨temporary, entry, keeps, -⟩ := fresh.keeps kind
  exact ⟨keeps.entry.isDirectory, keeps.temporary.isDirectory⟩

/-! ## Putting a value -/

section Set

variable (writable : Writable dir t) (free : kind.Free dir t identity) (value : kind.Value)

include writable free

/-- Putting a value makes files, and takes none away but the temporary one. -/
theorem sameDirectories_put : FileTree.SameDirectories t
    ((kind.cache dir).set t (identityDigest identity) value) := by
  obtain ⟨base, -, keeps⟩ := writable.keeps free
  exact FileCache.sameDirectories_set keeps value

/-- A value is found again. -/
theorem get?_put (reads : Storable.ofText (Storable.toText value) = .ok value) :
    (kind.cache dir).get? ((kind.cache dir).set t (identityDigest identity) value)
      (identityDigest identity) = some value := by
  obtain ⟨base, -, keeps⟩ := writable.keeps free
  have keeps' := keeps.of_same (FileCache.sameDirectories_set keeps value)
  have there : ((kind.cache dir).set t (identityDigest identity) value).node?
      (base ++ [kind.fileName identity]) = some (.file (FileCache.content value)) := by
    rw [FileCache.node?_set keeps, if_pos rfl]
  rw [FileCache.get?_of_file keeps' there, reads]
  rfl

/-- Other files in the directory are what they were. -/
theorem find_put {name : String} (named : Path.IsName name)
    (notEntry : name ≠ kind.fileName identity)
    (notTemporary : name ≠ kind.fileName identity ++ ".tmp") :
    ((kind.cache dir).set t (identityDigest identity) value).find (Path.join dir name) =
      t.find (Path.join dir name) := by
  obtain ⟨base, enters, keeps⟩ := writable.keeps free
  rw [← kind.entryName_cache dir] at notEntry notTemporary
  refine FileCache.find_set keeps enters ?_ named notEntry notTemporary value
  rw [kind.entryName_cache]
  exact kind.isName_fileName identity

/-- Other entries are what they were. -/
theorem get?_put_other (other : ¬(identityDigest identity' = identityDigest identity ∧
    kind' = kind)) :
    (kind'.cache dir).get? ((kind.cache dir).set t (identityDigest identity) value)
      (identityDigest identity') = (kind'.cache dir).get? t (identityDigest identity') := by
  apply FileCache.get?_congr
  rw [kind'.entryPath_cache]
  apply find_put writable free value (kind'.isName_fileName identity')
  · rwa [ne_eq, EntryKind.fileName_eq_iff]
  · exact FileCache.entryName_ne_temporary _

/-- So are the sources of scripts. -/
theorem read_put (identity' : String) :
    ((kind.cache dir).set t (identityDigest identity) value).read
        (Path.join dir (CacheKey.sourceName (identityDigest identity'))) =
      t.read (Path.join dir (CacheKey.sourceName (identityDigest identity'))) := by
  apply FileTree.read_congr
  apply find_put writable free value (isName_sourceName identity')
  · exact FileCache.entryName_ne_sourceName.symm
  · exact (FileCache.temporary_ne_sourceName _).symm

/-- Nothing is left beside the entry. -/
theorem pathExists_temporary_put :
    ((kind.cache dir).set t (identityDigest identity) value).pathExists
      (FileCache.temporaryPath ((kind.cache dir).entryPath (identityDigest identity))) = false := by
  obtain ⟨base, -, keeps⟩ := writable.keeps free
  refine FileCache.pathExists_temporary_set keeps value ?_
  intro same
  have names := List.singleton_inj.mp (List.append_cancel_left same)
  exact FileCache.entryName_ne_temporary _ names.symm

end Set

end Writable

/-! ## Memory -/

namespace MemoryShelf

variable (m : MemoryShelf) (kind kind' : EntryKind) (digest digest' : String) (value : kind.Value)

theorem get?_set_self : (m.set kind digest value).get? kind digest = some value := by
  cases kind <;> simp [get?, set]

theorem get?_set_other (other : ¬(digest' = digest ∧ kind' = kind)) :
    (m.set kind digest value).get? kind' digest' = m.get? kind' digest' := by
  cases kind <;> cases kind' <;> simp_all [get?, set]

end MemoryShelf

/-! ## Requests -/

/-- That a request writes an entry.  Requests of the other kind and those for other digests do not.
-/
def CacheRequest.Writes (kind : EntryKind) (digest : String) : CacheRequest → Prop
  | .get _ _ => False
  | .set kind' identity _ => digest = identityDigest identity ∧ kind = kind'

/-- That what a request puts into a file can be had again: nothing is in the way of the file, and
the value is what its text reads as. -/
def CacheRequest.Lasts (dir : String) (t : FileTree) : CacheRequest → Prop
  | .get _ _ => True
  | .set kind identity value =>
    kind.Free dir t identity ∧ Storable.ofText (Storable.toText value) = .ok value

/-- That a request has changed no more than it was to: no other entry, and no source of a script,
and that it has left no temporary file. -/
structure CacheRecord.Clean (dir : String) (r : CacheRecord FileTree) : Prop where
  entries : ∀ kind identity, ¬r.request.Writes kind (identityDigest identity) →
    (EntryKind.cache dir kind).get? r.after (identityDigest identity) =
      (EntryKind.cache dir kind).get? r.before (identityDigest identity)
  sources : ∀ identity,
    r.after.read (Path.join dir (CacheKey.sourceName (identityDigest identity))) =
      r.before.read (Path.join dir (CacheKey.sourceName (identityDigest identity)))
  temporary : ∀ kind identity value, r.request = .set kind identity value →
    r.after.pathExists (FileCache.temporaryPath
      ((EntryKind.cache dir kind).entryPath (identityDigest identity))) = false

namespace Shelf

variable {dir : String} {t : FileTree} {m : MemoryShelf} {request : CacheRequest}

/-- One request does no more than it is to. -/
theorem clean_answer (writable : Writable dir t) (lasts : request.Lasts dir t) :
    ((disk dir).answer t request).Clean dir := by
  cases request with
  | get kind identity => exact ⟨fun _ _ _ => rfl, fun _ => rfl, nofun⟩
  | set kind identity value =>
    obtain ⟨free, -⟩ := lasts
    refine ⟨fun kind' identity' other => ?_, fun identity' => ?_, ?_⟩
    · exact get?_put_other writable free value other
    · exact read_put writable free value identity'
    · rintro _ _ _ ⟨⟩
      exact pathExists_temporary_put writable free value

/-- A request makes no directory and takes none away. -/
theorem sameDirectories_answer (writable : Writable dir t) (lasts : request.Lasts dir t) :
    FileTree.SameDirectories t ((disk dir).answer t request).after := by
  cases request with
  | get kind identity => exact fun _ => Iff.rfl
  | set kind identity value => exact sameDirectories_put writable lasts.1 value

/-- What can be written stays so. -/
theorem lasts_answer (writable : Writable dir t) (lasts : request.Lasts dir t)
    {later : CacheRequest} (lasts' : later.Lasts dir t) :
    later.Lasts dir ((disk dir).answer t request).after := by
  have same := sameDirectories_answer writable lasts
  cases later with
  | get => trivial
  | set kind identity value => exact ⟨lasts'.1.of_same same, lasts'.2⟩

/-- What is in memory stays what is in files.  A value that is put is found on both sides, and all
other entries are as they were on both. -/
theorem mirrors_answer (writable : Writable dir t) (lasts : request.Lasts dir t)
    {kind : EntryKind} {identity : String}
    (mirrors : m.get? kind (identityDigest identity) =
      (kind.cache dir).get? t (identityDigest identity)) :
    (memory.answer m request).after.get? kind (identityDigest identity) =
      (kind.cache dir).get? ((disk dir).answer t request).after (identityDigest identity) := by
  cases request with
  | get => exact mirrors
  | set kind' identity' value =>
    obtain ⟨free, reads⟩ := lasts
    show (m.set kind' (identityDigest identity') value).get? kind (identityDigest identity) =
      (kind.cache dir).get? ((kind'.cache dir).set t (identityDigest identity') value)
        (identityDigest identity)
    -- Scripts with one digest share their entries, in files as in memory.
    by_cases same : identityDigest identity = identityDigest identity' ∧ kind = kind'
    · obtain ⟨digests, rfl⟩ := same
      rw [digests, m.get?_set_self, get?_put writable free value reads]
    · rw [m.get?_set_other _ _ _ _ _ same, get?_put_other writable free value same, mirrors]

/-- **Files are as good as memory.**  Let entries be written and asked for in any order, in a
directory that is there, with nothing in their way and with values that their texts read as.  What
is found is what is found in memory caches, one for each kind, that have in them what is in the
directory at first; and no request changes another entry or the source of a script, or leaves a
temporary file. -/
theorem run_disk_eq_memory (requests : List CacheRequest) (writable : Writable dir t)
    (lasts : ∀ request ∈ requests, request.Lasts dir t)
    (mirrors : ∀ kind identity, .get kind identity ∈ requests →
      m.get? kind (identityDigest identity) =
        (EntryKind.cache dir kind).get? t (identityDigest identity)) :
    ((disk dir).run t requests).map (·.reply) = (memory.run m requests).map (·.reply) ∧
      ∀ r ∈ (disk dir).run t requests, r.Clean dir := by
  induction requests generalizing t m with
  | nil => exact ⟨rfl, nofun⟩
  | cons request rest ih =>
    have lasts₁ := lasts request List.mem_cons_self
    have reply : ((disk dir).answer t request).reply = (memory.answer m request).reply := by
      cases request with
      | get kind identity =>
        have asked := mirrors kind identity List.mem_cons_self
        simp only [answer, disk, memory, asked]
      | set => rfl
    -- A request leaves all directories where they are, so the later ones can be written too, and
    -- memory mirrors what will be asked for.
    obtain ⟨replies, clean⟩ := ih
      (writable.of_same (sameDirectories_answer writable lasts₁))
      (fun later there => lasts_answer writable lasts₁ (lasts later (List.mem_cons_of_mem _ there)))
      (fun kind identity there =>
        mirrors_answer writable lasts₁ (mirrors kind identity (List.mem_cons_of_mem _ there)))
    rw [run, run, List.map_cons, List.map_cons, reply, replies]
    refine ⟨rfl, fun r there => ?_⟩
    rw [List.mem_cons] at there
    obtain rfl | there := there
    · exact clean_answer writable lasts₁
    · exact clean r there

end Shelf

/-- A value comes back from its text if all its numbers do. -/
theorem SolverSet.ofText_toText_eq_ok {s : SolverSet} (fits : s.Fits Json.maxNesting)
    (same : s.reread = some s) :
    (Storable.ofText (Storable.toText s) : Except String SolverSet) = .ok s :=
  eq_ok_of_toOption ((ofText_toEntry fits).trans same)

namespace Drift

/-- Solvers with an integer in them. -/
def exact : SolverSet := ⟨solverXy (numberNode (.integer 1))⟩

theorem ofText_exact : (Storable.ofText (Storable.toText exact) : Except String SolverSet) =
    .ok exact := by
  have word : Number.inRange 1 = true := by decide
  have back : (Number.integer 1).reread = some (.integer 1) := Number.reread_integer word
  have found := ofProgramText_scriptXy (n := .integer 1) word back
  refine SolverSet.ofText_toText_eq_ok (SolverSet.fits_of_ofProgramText found) ?_
  rw [SolverSet.reread_eq_self_iff]
  intro n there
  have one : n = .integer 1 := by
    simpa [SolverSet.numbers, exact, solverXy, numberNode, identifierNode, Argument.numbers,
      Json.numbers, Json.numbersOfMembers] using there
  rw [one, back]

/-- Something is looked for, put there and found, and then something of the other kind.  The last
two requests find what each of the kinds holds. -/
def requests : List CacheRequest :=
  [.get .text "p", .set .text "p" "a", .get .text "p", .get .solvers "p",
    .set .solvers "p" exact, .get .text "p", .get .solvers "p"]

/-- What is found in files when these requests are made one after another. -/
theorem run_requests :
    ((Shelf.disk "cache").run tree requests).map (·.reply) =
        [.found .text none, .done, .found .text (some "a"), .found .solvers none, .done,
          .found .text (some "a"), .found .solvers (some exact)] ∧
      ∀ r ∈ (Shelf.disk "cache").run tree requests, r.Clean "cache" := by
  have writable : Writable "cache" tree := ⟨rfl, by decide⟩
  have lasts : ∀ request ∈ requests, request.Lasts "cache" tree := by
    intro request there
    simp only [requests, List.mem_cons, List.not_mem_nil, or_false] at there
    rcases there with rfl | rfl | rfl | rfl | rfl | rfl | rfl
    · trivial
    · exact ⟨isFresh_tree.free .text, Storable.ofText_toText_eq_ok "a"⟩
    · trivial
    · trivial
    · exact ⟨isFresh_tree.free .solvers, ofText_exact⟩
    · trivial
    · trivial
  have mirrors : ∀ kind identity, .get kind identity ∈ requests →
      ({} : MemoryShelf).get? kind (identityDigest identity) =
        (EntryKind.cache "cache" kind).get? tree (identityDigest identity) := by
    intro kind identity there
    have named : identity = "p" := by
      simp [requests] at there
      grind
    rw [named, (isFresh_tree.absent kind).get?]
    cases kind <;> rfl
  obtain ⟨replies, clean⟩ := Shelf.run_disk_eq_memory requests writable lasts mirrors
  refine ⟨replies.trans ?_, clean⟩
  simp [requests, Shelf.run, Shelf.answer, Shelf.memory, MemoryShelf.get?, MemoryShelf.set]

end Drift

end Decipher
