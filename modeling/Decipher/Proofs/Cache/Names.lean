import Decipher.Cache.Key
import Decipher.Pipeline.Shelf
import Decipher.Proofs.Files.Path
import Decipher.Text.Position

/-!
# Names in a cache directory

Entries, the temporary files beside them and the sources of scripts all stand in one directory,
and each has a name of its own: it ends in `.json`, `.json.tmp` or `.js`, and what stands before
that tells the digest, which has no dots, and the kind of the entry.

* `mem_hexDigest`: digests are made of hexadecimal digits.
* `entryName_eq_iff`: an entry is known by its digest and its kind.
* `entryName_ne_temporary`, `entryName_ne_sourceName`, `temporary_ne_sourceName`: names of different
  roles are different.

That digests have no dots is what keeps names apart.  A name is the digest, a dot, the kind, and an
ending; with a dot in the digest there could be two ways to cut it.  The kinds have no dots either,
but nothing depends on this, as what stands behind the digest is compared as a whole.

Different identities may have one digest, and then they share their entries.  Nothing here excludes
it, and nothing depends on it: what is said about two scripts is said about two digests.
-/

namespace Decipher

/-! ## Digests -/

namespace Blake3

variable {c : Char}

/-- A byte is written with two hexadecimal digits. -/
theorem mem_hexByte {n : Nat} (byte : n < 256) (there : c ∈ hexByte n) :
    ∃ k < 16, c = hexDigit k := by
  simp only [hexByte, List.mem_cons, List.not_mem_nil, or_false] at there
  rcases there with rfl | rfl
  · exact ⟨n / 16, by omega, rfl⟩
  · exact ⟨n % 16, by omega, rfl⟩

theorem mem_hexWord {w : UInt32} (there : c ∈ hexWord w) : ∃ k < 16, c = hexDigit k := by
  have last : w.toNat / Nat.pow 2 24 < 256 := Nat.div_lt_of_lt_mul w.toNat_lt
  have rest (n : Nat) : n % 256 < 256 := Nat.mod_lt n (by decide)
  simp only [hexWord, List.mem_append] at there
  rcases there with ((there | there) | there) | there
  · exact mem_hexByte (rest _) there
  · exact mem_hexByte (rest _) there
  · exact mem_hexByte (rest _) there
  · exact mem_hexByte last there

/-- A digest is made of hexadecimal digits. -/
theorem mem_hexDigest {bytes : ByteArray} (there : c ∈ (hexDigest bytes).toList) :
    ∃ k < 16, c = hexDigit k := by
  rw [hexDigest, String.toList_ofList, List.mem_flatMap] at there
  obtain ⟨w, -, there⟩ := there
  exact mem_hexWord there

/-- No digit is a slash, so that a digest is one step of a path. -/
theorem hexDigit_ne_slash : ∀ n < 16, hexDigit n ≠ '/' := by decide

/-- No digit is a dot, so that a digest ends at the first dot. -/
theorem hexDigit_ne_dot : ∀ n < 16, hexDigit n ≠ '.' := by decide

/-- No digit ends a text for an operating system. -/
theorem hexDigit_ne_nul : ∀ n < 16, hexDigit n ≠ '\x00' := by decide

/-- A digest can be part of the name of a file.  So no identity leads out of the directory, whatever
steps upward are written in it. -/
theorem noSlash_hexDigest (bytes : ByteArray) : '/' ∉ (hexDigest bytes).toList := by
  intro there
  obtain ⟨k, small, same⟩ := mem_hexDigest there
  exact hexDigit_ne_slash k small same.symm

theorem noNul_hexDigest (bytes : ByteArray) : '\x00' ∉ (hexDigest bytes).toList := by
  intro there
  obtain ⟨k, small, same⟩ := mem_hexDigest there
  exact hexDigit_ne_nul k small same.symm

theorem noDot_hexDigest (bytes : ByteArray) : '.' ∉ (hexDigest bytes).toList := by
  intro there
  obtain ⟨k, small, same⟩ := mem_hexDigest there
  exact hexDigit_ne_dot k small same.symm

/-- A digest is short: it has eight words at most. -/
theorem size_digestWords_le (bytes : ByteArray) : (digestWords bytes).size ≤ 8 := by
  rw [digestWords]
  split
  · simp [Node.compress]
  · simp

theorem utf8Size_hexDigit : ∀ n < 16, (hexDigit n).utf8Size = 1 := by decide

/-- A byte takes two digits. -/
theorem byteCount_hexByte {n : Nat} (byte : n < 256) : byteCount (hexByte n) = 2 := by
  rw [hexByte, byteCount_cons, byteCount_cons, byteCount_nil,
    utf8Size_hexDigit _ (by omega), utf8Size_hexDigit _ (by omega)]

theorem byteCount_hexWord (w : UInt32) : byteCount (hexWord w) = 8 := by
  have last : w.toNat / Nat.pow 2 24 < 256 := Nat.div_lt_of_lt_mul w.toNat_lt
  have rest (n : Nat) : n % 256 < 256 := Nat.mod_lt n (by decide)
  simp only [hexWord, byteCount_append, byteCount_hexByte (rest _), byteCount_hexByte last]

theorem byteCount_flatMap_hexWord (words : List UInt32) :
    byteCount (words.flatMap hexWord) = 8 * words.length := by
  induction words with
  | nil => rfl
  | cons w rest ih =>
    rw [List.flatMap_cons, byteCount_append, byteCount_hexWord, ih, List.length_cons]
    omega

/-- A digest has 64 characters at most, which leaves room for the rest of a name. -/
theorem utf8ByteSize_hexDigest_le (bytes : ByteArray) : (hexDigest bytes).utf8ByteSize ≤ 64 := by
  have few := size_digestWords_le bytes
  rw [hexDigest, utf8ByteSize_ofList, byteCount_flatMap_hexWord, Array.length_toList]
  omega

end Blake3

section Identity

variable (identity : String)

/-- The digest of an identity has no slash in it, whatever the identity is. -/
theorem noSlash_identityDigest : '/' ∉ (identityDigest identity).toList := by
  rw [identityDigest]
  exact Blake3.noSlash_hexDigest _

theorem noDot_identityDigest : '.' ∉ (identityDigest identity).toList := by
  rw [identityDigest]
  exact Blake3.noDot_hexDigest _

theorem noNul_identityDigest : '\x00' ∉ (identityDigest identity).toList := by
  rw [identityDigest]
  exact Blake3.noNul_hexDigest _

/-- It is short, however long the identity is. -/
theorem utf8ByteSize_identityDigest_le : (identityDigest identity).utf8ByteSize ≤ 64 := by
  rw [identityDigest]
  exact Blake3.utf8ByteSize_hexDigest_le _

end Identity

/-! ## Names -/

namespace FileCache

variable {α β : Type} {c : FileCache α} {c' : FileCache β} {digest digest' : String}

/-- The name of the entry of a digest.  The kind in it keeps the caches apart that share a
directory. -/
def entryName (c : FileCache α) (digest : String) : String := digest ++ "." ++ c.kind ++ ".json"

/-- The name of an entry names a file, as long as the digest and the kind have no slash in them. -/
theorem isName_entryName (noSlash : '/' ∉ digest.toList) (noSlash' : '/' ∉ c.kind.toList) :
    Path.IsName (c.entryName digest) := by
  refine ⟨?_, 'n', (['.', 'j', 's', 'o'].reverse ++ (digest ++ "." ++ c.kind).toList.reverse), ?_,
    by decide⟩
  · simp [entryName, noSlash, noSlash']
  · simp [entryName]

/-- The suffix of a temporary file ends in no dot, so that a name with it is a name. -/
theorem isName_temporarySuffix : Path.IsName ".tmp" :=
  ⟨by decide, 'p', _, rfl, by decide⟩

/-- An entry stands in the directory of its cache. -/
theorem entryPath_eq (c : FileCache α) (digest : String) :
    c.entryPath digest = Path.join c.dir (c.entryName digest) := rfl

/-- A file is written first under its name with a suffix, in the same directory. -/
theorem temporaryPath_eq {name : String} (named : Path.IsName name) (dir : String) :
    temporaryPath (Path.join dir name) =
      Path.join (Path.parent (Path.join dir name)) (name ++ ".tmp") := by
  rw [temporaryPath, Path.withFileName, Path.fileName_join named]

/-! ### Apart -/

/-- A text with a dot behind it, and no dot in it, can be told from what follows. -/
theorem eq_of_append_dot {cs cs' rest rest' : List Char} (noDot : '.' ∉ cs) (noDot' : '.' ∉ cs')
    (same : cs ++ '.' :: rest = cs' ++ '.' :: rest') : cs = cs' ∧ rest = rest' := by
  have inside : ∀ c ∈ cs, (c != '.') = true := by
    intro c there
    exact bne_iff_ne.mpr fun dot => noDot (dot ▸ there)
  have inside' : ∀ c ∈ cs', (c != '.') = true := by
    intro c there
    exact bne_iff_ne.mpr fun dot => noDot' (dot ▸ there)
  -- Both texts are what stands before the first dot.
  have before := congrArg (List.takeWhile (· != '.')) same
  rw [List.takeWhile_append_of_pos inside, List.takeWhile_append_of_pos inside'] at before
  have texts : cs = cs' := by simpa using before
  subst texts
  exact ⟨rfl, by simpa using same⟩

/-- **An entry is known by its digest and its kind.**  The digest ends at the first dot, so that a
kind may have dots in it and still not be taken for a part of the digest. -/
theorem entryName_eq_iff (noDot : '.' ∉ digest.toList) (noDot' : '.' ∉ digest'.toList) :
    c.entryName digest = c'.entryName digest' ↔ digest = digest' ∧ c.kind = c'.kind := by
  constructor
  · intro same
    have chars := congrArg String.toList same
    simp only [entryName, String.toList_append, List.append_assoc] at chars
    obtain ⟨texts, rest⟩ := eq_of_append_dot noDot noDot' chars
    exact ⟨String.toList_inj.mp texts, String.toList_inj.mp (List.append_cancel_right rest)⟩
  · rintro ⟨rfl, kinds⟩
    rw [entryName, entryName, kinds]

/-- What a name ends in tells what it is the name of.  For an entry this is an `n`. -/
theorem getLast?_entryName (c : FileCache α) (digest : String) :
    (c.entryName digest).toList.getLast? = some 'n' := by
  rw [entryName, String.toList_append, List.getLast?_append]
  rfl

theorem getLast?_temporary (name : String) : (name ++ ".tmp").toList.getLast? = some 'p' := by
  simp

theorem getLast?_sourceName (digest : String) :
    (CacheKey.sourceName digest).toList.getLast? = some 's' := by
  simp [CacheKey.sourceName]

/-- No entry has the name of a temporary file, not even of one that belongs to another cache. -/
theorem entryName_ne_temporary (name : String) : c.entryName digest ≠ name ++ ".tmp" := by
  intro same
  have last := getLast?_entryName c digest
  rw [same, getLast?_temporary] at last
  cases last

/-- No entry has the name of a source. -/
theorem entryName_ne_sourceName : c.entryName digest ≠ CacheKey.sourceName digest' := by
  intro same
  have last := getLast?_entryName c digest
  rw [same, getLast?_sourceName] at last
  cases last

/-- No temporary file has the name of a source, so that no save can touch one. -/
theorem temporary_ne_sourceName (name : String) : name ++ ".tmp" ≠ CacheKey.sourceName digest := by
  intro same
  have last := getLast?_temporary name
  rw [same, getLast?_sourceName] at last
  cases last

end FileCache

/-! ## Scripts -/

/-- A script has a key just if its identity is not blank; its digest tells all of the key. -/
theorem CacheKey.resolve_eq_ok_iff {dir identity : String} {key : CacheKey} :
    resolve dir identity = .ok key ↔
      (trim identity).isEmpty = false ∧ key = .ofDigest dir (identityDigest identity) := by
  unfold resolve
  split
  · rename_i blank
    simp [blank]
  · rename_i named
    rw [Bool.not_eq_true] at named
    rw [Except.ok.injEq]
    simp only [named, true_and]
    exact eq_comm

namespace EntryKind

variable (dir identity identity' : String)

/-- The name of the entry of a script. -/
def fileName (kind : EntryKind) (identity : String) : String :=
  (kind.cache "").entryName (identityDigest identity)

/-- The name of an entry does not depend on the directory. -/
theorem entryName_cache (kind : EntryKind) :
    (kind.cache dir).entryName (identityDigest identity) = kind.fileName identity := by
  cases kind <;> rfl

theorem dir_cache (kind : EntryKind) : (kind.cache dir).dir = dir := by
  cases kind <;> rfl

theorem entryPath_cache (kind : EntryKind) :
    (kind.cache dir).entryPath (identityDigest identity) =
      Path.join dir (kind.fileName identity) := by
  rw [FileCache.entryPath_eq, entryName_cache, dir_cache]

/-- The name of an entry of a script names a file. -/
theorem isName_fileName (kind : EntryKind) : Path.IsName (kind.fileName identity) :=
  FileCache.isName_entryName (noSlash_identityDigest identity) (by cases kind <;> decide)

theorem noNul_fileName (kind : EntryKind) : '\x00' ∉ (kind.fileName identity).toList := by
  intro there
  simp only [fileName, FileCache.entryName, String.toList_append, List.mem_append] at there
  obtain ((there | there) | there) | there := there
  · exact noNul_identityDigest identity there
  · cases kind <;> simp at there
  · cases kind <;> simp [cache, DiskStore.preprocessedCache, DiskStore.solverCache] at there
  · simp at there

/-- An entry has a short name.  It stays well below `maxNameLength`, also with the suffix of a
temporary file behind it. -/
theorem utf8ByteSize_fileName_le (kind : EntryKind) :
    (kind.fileName identity).utf8ByteSize ≤ 82 := by
  have few := utf8ByteSize_identityDigest_le identity
  have size : (kind.cache "").kind.utf8ByteSize ≤ 12 := by cases kind <;> decide
  have dot : (".").utf8ByteSize = 1 := rfl
  have suffix : (".json").utf8ByteSize = 5 := rfl
  simp only [fileName, FileCache.entryName, String.utf8ByteSize_append, dot, suffix]
  omega

/-- The entries of a script have different names, and those of different scripts, too. -/
theorem fileName_eq_iff (kind kind' : EntryKind) :
    kind.fileName identity = kind'.fileName identity' ↔
      identityDigest identity = identityDigest identity' ∧ kind = kind' := by
  rw [fileName, fileName,
    FileCache.entryName_eq_iff (noDot_identityDigest _) (noDot_identityDigest _)]
  have kinds : (kind.cache "").kind = (kind'.cache "").kind ↔ kind = kind' := by
    cases kind <;> cases kind' <;> decide
  rw [kinds]

end EntryKind

section Scripts

variable (dir identity : String)

/-- The source of a script has a name that names a file. -/
theorem isName_sourceName : Path.IsName (CacheKey.sourceName (identityDigest identity)) := by
  refine ⟨?_, 's', 'j' :: '.' :: (identityDigest identity).toList.reverse, ?_, by decide⟩
  · simp [CacheKey.sourceName, noSlash_identityDigest]
  · simp [CacheKey.sourceName]

theorem isName_preprocessed :
    Path.IsName ((DiskStore.preprocessedCache dir).entryName (identityDigest identity)) :=
  EntryKind.isName_fileName identity .text

theorem isName_solvers :
    Path.IsName ((DiskStore.solverCache dir).entryName (identityDigest identity)) :=
  EntryKind.isName_fileName identity .solvers

/-- The two entries of a script have different names. -/
theorem preprocessedName_ne_solversName (identity' : String) :
    (DiskStore.preprocessedCache dir).entryName (identityDigest identity) ≠
      (DiskStore.solverCache dir).entryName (identityDigest identity') := by
  intro same
  have kinds := ((EntryKind.fileName_eq_iff identity identity' .text .solvers).mp same).2
  cases kinds

end Scripts

end Decipher
