import Decipher.Cache.File
import Decipher.Proofs.Cache.Names
import Decipher.Proofs.Files.Directory
import Decipher.Proofs.Files.Growth
import Decipher.Proofs.Json.RoundTrip

/-!
# What a file cache keeps

A value that was saved stands in its entry, as text, until something else is saved there;
`FileCache.get?` is what that text reads as.  Saving it changes no other file and leaves
nothing beside the entry.

* `Receives`: a save succeeds just if its directory can be made, and the entry and the temporary
  file beside it have their places then.
* `Keeps`: so it is if the directory is there.
* `node?_save`, `node?_set`: what saving a value does to a tree.
* `get?_of_file`, `get?_of_absent`: what is found then.
* `Unusable`: an entry in which nothing is found.

## Places and names

A save works on two files in one directory, and each of them has a path of its own.  What it does
to a tree is a change at two places (`node?_save`), and what it leaves alone is everything else.
To say this of other files one has to know that they stand elsewhere; their names are enough for
that, since a path that ends in a name leads to a place that ends in it (`Receives.apart`).  So the
lemmas about other files ask for nothing but different names, and hold for files in other
directories as well.

`Receives` and `Keeps` differ in the directory: the first lets the save make it, and then the
places are those in the tree where it was made.  A process that saves more than once needs the
first only for the first time.
-/

namespace Decipher

/-! ## Texts -/

/-- A text comes back as it was.  Solvers do so only as far as their numbers do, which is why the
lemmas below say what is read of an entry and not what was saved. -/
theorem Storable.ofText_toText (text : String) :
    (ofText (toText text) : Except String String).toOption = some text := by
  have reads : Json.Reads (Json.readString Json.stringLabel) (.string text) (some text) := by
    intro rest _
    have quote : Json.skipBlanks (Json.writeString text rest) = Json.writeString text rest :=
      Json.skipBlanks_cons rfl _
    rw [Json.write, Json.readString, quote, Json.writeString]
    simp only [Json.readQuoted_writeBody]
    rfl
  exact (toOption_mapError _ _).trans reads.whole

theorem Storable.ofText_toText_eq_ok (text : String) :
    (ofText (toText text) : Except String String) = .ok text :=
  eq_ok_of_toOption (ofText_toText text)

namespace FileCache

variable {α : Type} {c : FileCache α} {t : FileTree} {digest : String}

/-! ## Saving -/

/-- **That a save succeeds.**  Its directory is made, and then the entry and the temporary file
beside it have their places, and no directories stand there. -/
structure Receives (c : FileCache α) (t : FileTree) (digest : String) (ready : FileTree)
    (temporary entry : FilePlace) : Prop where
  made : t.makeDirectories c.dir = (ready, none)
  temporary : ready.Admits (temporaryPath (c.entryPath digest)) temporary
  entry : ready.Admits (c.entryPath digest) entry

/-- That the entry of a digest can be written: it and the temporary file beside it have their
places, and no directories stand there. -/
structure Keeps (c : FileCache α) (t : FileTree) (digest : String)
    (temporary entry : FilePlace) : Prop where
  directory : t.isDirectory c.dir = true
  temporary : t.Admits (temporaryPath (c.entryPath digest)) temporary
  entry : t.Admits (c.entryPath digest) entry

variable {ready : FileTree} {temporary entry : FilePlace}

/-- Where the directory is there already nothing has to be made. -/
theorem Keeps.receives (keeps : c.Keeps t digest temporary entry) :
    c.Receives t digest t temporary entry :=
  ⟨FileTree.makeDirectories_of_isDirectory keeps.directory, keeps.temporary, keeps.entry⟩

/-- An entry can be written where nothing stands, neither at its place nor at the other. -/
theorem keeps_of_absent (named : Path.IsName (c.entryName digest))
    (directory : t.isDirectory c.dir = true) (led : t.resolve (c.entryPath digest) = .ok entry)
    (absent : t.node? entry = none)
    (led' : t.resolve (temporaryPath (c.entryPath digest)) = .ok temporary)
    (absent' : t.node? temporary = none) : c.Keeps t digest temporary entry := by
  have noSlash : Path.endsInSlash (temporaryPath (c.entryPath digest)) = false := by
    rw [entryPath_eq, temporaryPath_eq named]
    exact Path.endsInSlash_join (named.append isName_temporarySuffix) _
  exact ⟨directory, ⟨led', noSlash, by simp [absent']⟩,
    ⟨led, Path.endsInSlash_join named _, by simp [absent]⟩⟩

/-- A file is written first in the same directory. -/
theorem resolve_temporaryPath {dir name : String} {base : FilePlace} (enters : t.Enters dir base)
    (named : Path.IsName name) (noNul : '\x00' ∉ name.toList)
    (short : name.utf8ByteSize + 4 ≤ FileTree.maxNameLength)
    (fits : dir.utf8ByteSize + name.utf8ByteSize + 5 < FileTree.pathLimit) :
    t.resolve (temporaryPath (Path.join dir name)) = .ok (base ++ [name ++ ".tmp"]) := by
  have suffix : (".tmp").utf8ByteSize = 4 := rfl
  obtain ⟨beside, shorter⟩ := enters.parent named
  rw [temporaryPath_eq named]
  refine beside.resolve_join (named.append isName_temporarySuffix) ?_ ?_ ?_
  · simp [noNul]
  · rw [String.utf8ByteSize_append, suffix]
    exact short
  · rw [String.utf8ByteSize_append, suffix]
    omega

/-- An entry in a directory that is there can be written, unless directories are in the way. -/
theorem keeps_of_enters (c : FileCache α) (named : Path.IsName (c.entryName digest))
    (noNul : '\x00' ∉ (c.entryName digest).toList)
    (short : (c.entryName digest).utf8ByteSize + 4 ≤ FileTree.maxNameLength)
    (fits : c.dir.utf8ByteSize + (c.entryName digest).utf8ByteSize + 5 < FileTree.pathLimit)
    (directory : t.isDirectory c.dir = true) {base : FilePlace}
    (enters : t.Enters c.dir base)
    (free : t.isDirectory (c.entryPath digest) = false)
    (free' : t.isDirectory (temporaryPath (c.entryPath digest)) = false) :
    c.Keeps t digest (base ++ [c.entryName digest ++ ".tmp"]) (base ++ [c.entryName digest]) := by
  have admits {path : String} {place : FilePlace} (led : t.resolve path = .ok place)
      (noSlash : Path.endsInSlash path = false) (free : t.isDirectory path = false) :
      t.Admits path place := by
    refine ⟨led, noSlash, fun there => ?_⟩
    rw [FileTree.isDirectory_iff.mpr ⟨place, led, there⟩] at free
    cases free
  refine ⟨directory, admits ?_ ?_ free', admits ?_ ?_ free⟩
  · rw [entryPath_eq]
    exact resolve_temporaryPath enters named noNul short fits
  · rw [entryPath_eq, temporaryPath_eq named]
    exact Path.endsInSlash_join (named.append isName_temporarySuffix) _
  · rw [entryPath_eq]
    exact enters.resolve_join named noNul (by omega) (by omega)
  · exact Path.endsInSlash_join named _

/-- An entry has its own name at its place. -/
theorem Receives.getLast?_entry (receives : c.Receives t digest ready temporary entry)
    (named : Path.IsName (c.entryName digest)) : entry.getLast? = some (c.entryName digest) :=
  FileTree.getLast?_of_resolve named receives.entry.led

/-- So has the temporary file, with the suffix. -/
theorem Receives.getLast?_temporary (receives : c.Receives t digest ready temporary entry)
    (named : Path.IsName (c.entryName digest)) :
    temporary.getLast? = some (c.entryName digest ++ ".tmp") := by
  have led := receives.temporary.led
  rw [entryPath_eq, temporaryPath_eq named] at led
  exact FileTree.getLast?_of_resolve (named.append isName_temporarySuffix) led

/-- The name of a file tells it from both. -/
theorem Receives.apart (receives : c.Receives t digest ready temporary entry)
    (named : Path.IsName (c.entryName digest)) {name : String} {place : FilePlace}
    (last : place.getLast? = some name) (notEntry : name ≠ c.entryName digest)
    (notTemporary : name ≠ c.entryName digest ++ ".tmp") : place ≠ entry ∧ place ≠ temporary := by
  constructor
  · rintro rfl
    rw [receives.getLast?_entry named, Option.some.injEq] at last
    exact notEntry last.symm
  · rintro rfl
    rw [receives.getLast?_temporary named, Option.some.injEq] at last
    exact notTemporary last.symm

theorem Keeps.getLast?_entry (keeps : c.Keeps t digest temporary entry)
    (named : Path.IsName (c.entryName digest)) : entry.getLast? = some (c.entryName digest) :=
  keeps.receives.getLast?_entry named

theorem Keeps.getLast?_temporary (keeps : c.Keeps t digest temporary entry)
    (named : Path.IsName (c.entryName digest)) :
    temporary.getLast? = some (c.entryName digest ++ ".tmp") :=
  keeps.receives.getLast?_temporary named

/-- Changes of files do not keep an entry from being written. -/
theorem Keeps.of_same {t' : FileTree} (keeps : c.Keeps t digest temporary entry)
    (same : FileTree.SameDirectories t t') : c.Keeps t' digest temporary entry :=
  ⟨same.isDirectory keeps.directory, keeps.temporary.of_same same, keeps.entry.of_same same⟩

section Values

variable [Storable α]

/-- The bytes of a value in its entry. -/
def content (value : α) : ByteArray := Utf8.encode (Storable.toText value)

/-- What is left when all steps of a save have been taken: the temporary file is emptied, filled and
renamed.  The empty file is written down here because it is what a save that stops leaves. -/
theorem save_of_receives (receives : c.Receives t digest ready temporary entry) (value : α) :
    c.save t digest value =
      ((((ready.put temporary (.file .empty)).put temporary (.file (content value))).erase
        temporary).put entry (.file (content value)), .ok ()) := by
  have steps : c.saveActions digest value =
      [.makeDirectories c.dir, .truncate (temporaryPath (c.entryPath digest)),
        .overwrite (temporaryPath (c.entryPath digest)) (content value),
        .rename (temporaryPath (c.entryPath digest)) (c.entryPath digest)] := rfl
  have free := FileTree.isGiven_of_node? receives.temporary.noDirectory
  -- The file is emptied, filled and renamed; each time the paths lead where they led before.
  have emptied := FileTree.perform_truncate receives.temporary
  have same₁ := FileTree.sameDirectories_put .empty receives.temporary.noDirectory
  have temporary₁ := receives.temporary.of_same same₁
  have written := FileTree.perform_overwrite temporary₁
    (by rw [FileTree.node?_put free, if_pos rfl]) (content value)
  have same₂ := FileTree.sameDirectories_put (content value) temporary₁.noDirectory
  have filled : ((ready.put temporary (.file .empty)).put temporary
      (.file (content value))).node? temporary = some (.file (content value)) := by
    rw [FileTree.node?_put free, if_pos rfl]
  have renamed := FileTree.perform_rename (temporary₁.of_same same₂)
    (receives.entry.of_same (same₁.trans same₂)) filled
  rw [save, steps]
  simp only [FileTree.performAll, FileTree.perform, receives.made]
  simp only [FileTree.perform] at emptied written renamed
  simp only [emptied, written, renamed]

/-- A save that succeeds has found the places that it needs.  With `save_of_receives` this is a
characterization of when it does. -/
theorem receives_of_save {value : α} (saved : (c.save t digest value).2 = .ok ()) :
    ∃ ready temporary entry, c.Receives t digest ready temporary entry := by
  have steps : (t.performAll (c.saveActions digest value)).2 = none := by
    rw [save] at saved
    split at saved
    · rename_i done
      rw [done]
    · cases saved
  obtain ⟨ready, made, steps⟩ := FileTree.performAll_cons_eq_none_iff.mp steps
  -- Each action that succeeds tells that its path led somewhere in the tree that it was taken in.
  obtain ⟨t₁, emptied, steps⟩ := FileTree.performAll_cons_eq_none_iff.mp steps
  obtain ⟨temporary, admits⟩ := FileTree.admits_of_perform_truncate emptied
  rw [FileTree.perform_truncate admits] at emptied
  cases emptied
  obtain ⟨t₂, written, steps⟩ := FileTree.performAll_cons_eq_none_iff.mp steps
  have free := FileTree.isGiven_of_node? admits.noDirectory
  have same₁ := FileTree.sameDirectories_put .empty admits.noDirectory
  have admits₁ := admits.of_same same₁
  rw [FileTree.perform_overwrite admits₁ (by rw [FileTree.node?_put free, if_pos rfl])] at written
  cases written
  have same₂ :=
    FileTree.sameDirectories_put (Utf8.encode (Storable.toText value)) admits₁.noDirectory
  obtain ⟨t₃, renamed, -⟩ := FileTree.performAll_cons_eq_none_iff.mp steps
  obtain ⟨entry, admits'⟩ := FileTree.admits_of_perform_rename renamed
  exact ⟨ready, temporary, entry, made, admits, admits'.of_same (same₁.trans same₂).symm⟩

/-- **Saving a value puts it into its entry**, and takes away what stood at the place of the
temporary file.  Nothing else changes but for the directory that is made. -/
theorem node?_save (receives : c.Receives t digest ready temporary entry) (value : α)
    (place : FilePlace) :
    (c.save t digest value).1.node? place =
      if place = entry then some (.file (content value))
      else if place = temporary then none
      else ready.node? place := by
  have free := FileTree.isGiven_of_node? receives.temporary.noDirectory
  have free' := FileTree.isGiven_of_node? receives.entry.noDirectory
  rw [save_of_receives receives, FileTree.node?_put free', FileTree.node?_erase free,
    FileTree.node?_put free, FileTree.node?_put free]
  split
  · rfl
  · split <;> rfl

/-- A save changes no directory once its own is made. -/
theorem sameDirectories_save (receives : c.Receives t digest ready temporary entry) (value : α) :
    FileTree.SameDirectories ready (c.save t digest value).1 := by
  intro place
  rw [node?_save receives]
  split
  · rename_i same
    simp [same, receives.entry.noDirectory]
  · split
    · rename_i same
      simp [same, receives.temporary.noDirectory]
    · rfl

/-- Where the directory is there already, saving a value changes nothing but the entry and the
temporary file. -/
theorem node?_set (keeps : c.Keeps t digest temporary entry) (value : α) (place : FilePlace) :
    (c.set t digest value).node? place =
      if place = entry then some (.file (content value))
      else if place = temporary then none
      else t.node? place :=
  node?_save keeps.receives value place

theorem sameDirectories_set (keeps : c.Keeps t digest temporary entry) (value : α) :
    FileTree.SameDirectories t (c.set t digest value) :=
  sameDirectories_save keeps.receives value

/-! ## Finding -/

/-- An entry that cannot be read is not there.  The reason is known to the one who loads, and is
dropped here. -/
theorem get?_eq_load (c : FileCache α) (t : FileTree) (digest : String) :
    c.get? t digest =
      match c.load t digest with
      | .ok value => value
      | .error _ => none :=
  (rfl)

/-- What is found in an entry is what its text reads as. -/
theorem get?_of_file (keeps : c.Keeps t digest temporary entry) {value : α}
    (there : t.node? entry = some (.file (content value))) :
    c.get? t digest = (Storable.ofText (Storable.toText value) : Except String α).toOption := by
  have named : t.pathExists (c.entryPath digest) = true := by
    rw [FileTree.pathExists, keeps.entry.find there]
    rfl
  have text : t.readText (c.entryPath digest) = .ok (Storable.toText value) :=
    keeps.entry.readText there
  rw [get?_eq_load, load]
  simp only [named, if_true, text]
  cases (Storable.ofText (Storable.toText value) : Except String α) <;> rfl

/-- That a digest has no entry. -/
def Absent (c : FileCache α) (t : FileTree) (digest : String) : Prop :=
  t.pathExists (c.entryPath digest) = false

theorem Absent.get? (absent : c.Absent t digest) : c.get? t digest = none := by
  have missing : t.pathExists (c.entryPath digest) = false := absent
  rw [get?_eq_load, load]
  simp only [missing, Bool.false_eq_true, if_false]

omit [Storable α] in
/-- Without a file there is no entry. -/
theorem Keeps.absent (keeps : c.Keeps t digest temporary entry) (missing : t.node? entry = none) :
    c.Absent t digest := by
  rw [Absent, FileTree.pathExists, keeps.entry.find_none missing]
  rfl

theorem get?_of_absent (keeps : c.Keeps t digest temporary entry)
    (missing : t.node? entry = none) : c.get? t digest = none :=
  (keeps.absent missing).get?

/-! ## What is read after a save -/

/-- What was saved is what its entry holds, as a text. -/
theorem readText_of_save {value : α} (saved : (c.save t digest value).2 = .ok ()) :
    (c.save t digest value).1.readText (c.entryPath digest) = .ok (Storable.toText value) := by
  obtain ⟨ready, temporary, entry, receives⟩ := receives_of_save saved
  have admits := receives.entry.of_same (sameDirectories_save receives value)
  exact admits.readText (by rw [node?_save receives, if_pos rfl]; rfl)

/-- **A save spares the other files**, whatever directory they are in. -/
theorem readText_of_save_other {value : α} {dir name text : String}
    (saved : (c.save t digest value).2 = .ok ()) (named : Path.IsName (c.entryName digest))
    (named' : Path.IsName name) (notEntry : name ≠ c.entryName digest)
    (notTemporary : name ≠ c.entryName digest ++ ".tmp")
    (there : t.readText (Path.join dir name) = .ok text) :
    (c.save t digest value).1.readText (Path.join dir name) = .ok text := by
  obtain ⟨ready, temporary, entry, receives⟩ := receives_of_save saved
  have grows : FileTree.Grows t ready := by
    have grows := FileTree.makeDirectories_grows t c.dir
    rwa [receives.made] at grows
  have there := grows.readText there
  -- The two files that a save writes have other names, wherever they are.
  refine FileTree.readText_of_keeps (sameDirectories_save receives value).keeps ?_ there
  intro place content led stands
  have last := FileTree.getLast?_of_resolve named' led
  obtain ⟨apart, apart'⟩ := receives.apart named last notEntry notTemporary
  rw [node?_save receives, if_neg apart, if_neg apart', stands]

/-- Other names in a directory mean what they meant before.  This is more than
`readText_of_save_other`: it holds of names that mean nothing, too, and of directories. -/
theorem find_set {dir name : String} {base : FilePlace}
    (keeps : c.Keeps t digest temporary entry) (enters : t.Enters dir base)
    (named : Path.IsName (c.entryName digest)) (named' : Path.IsName name)
    (notEntry : name ≠ c.entryName digest) (notTemporary : name ≠ c.entryName digest ++ ".tmp")
    (value : α) :
    (c.set t digest value).find (Path.join dir name) = t.find (Path.join dir name) := by
  have same := sameDirectories_set keeps value
  refine (FileTree.find_eq (enters.resolve_eq (enters.of_keeps same.keeps) named') ?_).symm
  intro place led
  have last := FileTree.getLast?_of_resolve named' led
  obtain ⟨apart, apart'⟩ := keeps.receives.apart named last notEntry notTemporary
  rw [node?_set keeps, if_neg apart, if_neg apart']

/-- A save that is done leaves no temporary file. -/
theorem pathExists_temporary_set (keeps : c.Keeps t digest temporary entry) (value : α)
    (apart : temporary ≠ entry) :
    (c.set t digest value).pathExists (temporaryPath (c.entryPath digest)) = false := by
  have admits := keeps.temporary.of_same (sameDirectories_set keeps value)
  have gone : (c.set t digest value).node? temporary = none := by
    rw [node?_set keeps, if_neg apart, if_pos rfl]
  rw [FileTree.pathExists, admits.find_none gone]
  rfl

/-- What is read in an entry is loaded if it is the text of a value. -/
theorem load_of_readText {text : String} {value : α}
    (there : t.readText (c.entryPath digest) = .ok text)
    (reads : Storable.ofText text = .ok value) : c.load t digest = .ok (some value) := by
  obtain ⟨place, content, admits, stands, -⟩ := FileTree.readText_eq_ok_iff.mp there
  have named : t.pathExists (c.entryPath digest) = true := by
    rw [FileTree.pathExists, admits.find stands]
    rfl
  rw [load]
  simp only [named, if_true, there, reads]

/-- What is found in an entry depends on what its path names. -/
theorem get?_congr {t' : FileTree}
    (same : t.find (c.entryPath digest) = t'.find (c.entryPath digest)) :
    c.get? t digest = c.get? t' digest := by
  have there : t.pathExists (c.entryPath digest) = t'.pathExists (c.entryPath digest) := by
    rw [FileTree.pathExists, FileTree.pathExists, same]
  have text : t.readText (c.entryPath digest) = t'.readText (c.entryPath digest) := by
    rw [FileTree.readText, FileTree.readText, FileTree.read_congr same]
  rw [get?_eq_load, get?_eq_load, load, load, there, text]

/-- What is found in an entry stands in its file. -/
theorem readText_of_load {value : α} (there : c.load t digest = .ok (some value)) :
    ∃ text, t.readText (c.entryPath digest) = .ok text ∧ Storable.ofText text = .ok value := by
  rw [load] at there
  split at there
  · split at there
    · cases there
    · rename_i text read
      split at there
      · cases there
      · rename_i value' reads
        cases there
        exact ⟨text, read, reads⟩
  · cases there

theorem get?_of_load {value : α} (there : c.load t digest = .ok (some value)) :
    c.get? t digest = some value := by
  rw [get?_eq_load, there]

/-! ## Entries that are of no use -/

/-- **That nothing can be had from an entry.**  It is not there, or it is no file, or its bytes are
no text, or its text is none of a value. -/
inductive Unusable (c : FileCache α) (t : FileTree) (digest : String) : Prop
  | unreadable (e : FileError) (fails : t.readText (c.entryPath digest) = .error e)
  | undecodable (text problem : String) (there : t.readText (c.entryPath digest) = .ok text)
    (fails : (Storable.ofText text : Except String α) = .error problem)

/-- An entry that is of no use is none for the cache, and no other is.  It may be that its text
cannot be read, or that the text is none of a value; a cache tells neither from an entry that is
missing. -/
theorem get?_eq_none_iff : c.get? t digest = none ↔ c.Unusable t digest := by
  cases there : t.readText (c.entryPath digest) with
  | error e =>
    refine iff_of_true ?_ (.unreadable e there)
    rw [get?_eq_load, load]
    simp only [there]
    cases t.pathExists (c.entryPath digest) <;> rfl
  | ok text =>
    cases reads : (Storable.ofText text : Except String α) with
    | error problem =>
      refine iff_of_true ?_ (.undecodable text problem there reads)
      rw [get?_eq_load, load]
      simp only [there, reads]
      cases t.pathExists (c.entryPath digest) <;> rfl
    | ok value =>
      refine iff_of_false ?_ ?_
      · rw [get?_eq_load, load_of_readText there reads]
        nofun
      · rintro (⟨e, fails⟩ | ⟨text', problem, there', fails⟩)
        · rw [there] at fails
          cases fails
        · rw [there] at there'
          cases there'
          rw [reads] at fails
          cases fails

/-- An entry that is not there is of no use, like one that is spoilt. -/
theorem Absent.unusable (absent : c.Absent t digest) : c.Unusable t digest :=
  get?_eq_none_iff.mp absent.get?

end Values

end FileCache

end Decipher
