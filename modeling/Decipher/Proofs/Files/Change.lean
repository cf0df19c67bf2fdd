import Decipher.Files.Tree
import Decipher.Proofs.Files.Path

/-!
# What a change of files leaves as it was

A file that is put somewhere or taken away changes what stands at its place and nothing else.
Directories stay, so paths lead where they led before: resolving a path looks at nothing but which
places are directories (`SameDirectories`).

* `node?_put`, `node?_erase`: what stands where after one change.  Everything about single files is
  derived from these two.
* `SameDirectories`, `KeepsDirectories`: what two trees have in common if one of them comes from
  the other by changing files, or by changing files and making directories.
* `KeepsDirectories.resolve`: paths lead where they led.
* `Admits`: that a path leads to a place at which a file can stand.
* `perform_truncate`, `perform_overwrite`, `perform_rename`: the steps of a save, as single
  changes.

## Why directories are kept apart

The place that a path leads to is found step by step, and each step looks at the tree.  A statement
about reading after writing would have to follow both paths through a tree that changes between
them.  Keeping the directories apart splits this: files change, and no path notices; directories
are made, and no path that led somewhere notices.  What remains of a save is then a matter of
places, which are lists, and of which two are equal or not.
-/

namespace Decipher

theorem Utf8.decode?_encode (text : String) : decode? (encode text) = some text := by
  have valid : text.toUTF8.IsValidUTF8 := text.isValidUTF8
  rw [decode?, encode, String.fromUTF8?, dif_pos valid]
  rfl

namespace FileTree

/-! ## Single places -/

/-- What is taken out of a list of entries is not found in it, and everything else is.  The list may
have several entries for a place, of which all are taken out. -/
theorem lookup_filter_ne (place other : FilePlace) (entries : List (FilePlace × FileNode)) :
    (entries.filter fun e => e.1 ≠ place).lookup other =
      if other = place then none else entries.lookup other := by
  induction entries with
  | nil => simp
  | cons e rest ih =>
    obtain ⟨key, node⟩ := e
    by_cases taken : key = place
    · subst taken
      by_cases same : other = key
      · simpa [same] using ih
      · simpa [same, List.lookup_cons, beq_false_of_ne same] using ih
    · by_cases same : other = key
      · subst same
        simp [taken]
      · simpa [taken, List.lookup_cons, beq_false_of_ne same] using ih

variable {t t' : FileTree} {place other : FilePlace} {node : FileNode}

/-- What is put somewhere stands there, and nothing else moves.  The places that are always
directories are no places to put something. -/
theorem node?_put (free : place.isGiven = false) :
    (t.put place node).node? other = if other = place then some node else t.node? other := by
  by_cases same : other = place
  · subst same
    simp [node?, free, put]
  · have kept := lookup_filter_ne place other t.entries
    rw [if_neg same] at kept
    simp only [node?, put, List.lookup_cons, beq_false_of_ne same, kept, if_neg same]

/-- What is taken away stands nowhere, and nothing else moves. -/
theorem node?_erase (free : place.isGiven = false) :
    (t.erase place).node? other = if other = place then none else t.node? other := by
  have kept := lookup_filter_ne place other t.entries
  simp only [node?, erase, kept]
  by_cases same : other = place
  · subst same
    simp [free]
  · simp [same]

/-- A place at which no directory stands is none of those that are always there.  So it is enough to
know what stands somewhere to put something else there. -/
theorem isGiven_of_node? (noDirectory : t.node? place ≠ some .directory) :
    place.isGiven = false := by
  cases given : place.isGiven with
  | false => rfl
  | true =>
    refine absurd ?_ noDirectory
    simp [node?, given]

/-! ## Directories -/

/-- That the same places are directories.  Resolving a path looks at nothing else, so that paths
lead to the same places in both trees. -/
def SameDirectories (t t' : FileTree) : Prop :=
  ∀ place, t.node? place = some .directory ↔ t'.node? place = some .directory

theorem SameDirectories.symm (same : SameDirectories t t') : SameDirectories t' t :=
  fun place => (same place).symm

theorem SameDirectories.trans {t'' : FileTree} (first : SameDirectories t t')
    (second : SameDirectories t' t'') : SameDirectories t t'' :=
  fun place => (first place).trans (second place)

/-- A file takes the place of a file, or of nothing.  Paths lead through directories only, so that
no path leads elsewhere after it. -/
theorem sameDirectories_put (content : ByteArray)
    (noDirectory : t.node? place ≠ some .directory) :
    SameDirectories t (t.put place (.file content)) := by
  intro other
  rw [node?_put (isGiven_of_node? noDirectory)]
  by_cases same : other = place
  · subst same
    simp [noDirectory]
  · rw [if_neg same]

/-- That every directory of a tree is one of another, too.  This is half of `SameDirectories`, and
enough for what a path leads to; the other half is needed for what it does not lead to. -/
def KeepsDirectories (t t' : FileTree) : Prop :=
  ∀ place, t.node? place = some .directory → t'.node? place = some .directory

theorem SameDirectories.keeps (same : SameDirectories t t') : KeepsDirectories t t' :=
  fun place => (same place).mp

/-- One step leads to the place that it names. -/
theorem eq_step_of_land {start : FilePlace} {name : String} (landed : land start name = .ok place) :
    place = start.step name := by
  unfold land at landed
  split at landed
  · cases landed
  · cases landed
    rfl

/-- Steps lead on from where the first of them leads, which is a directory. -/
theorem walk_cons_eq_ok_iff {start : FilePlace} {name : String} {rest : List String} :
    t.walk start (name :: rest) = .ok place ↔
      ∃ next, land start name = .ok next ∧ t.node? next = some .directory ∧
        t.walk next rest = .ok place := by
  rw [walk]
  cases land start name with
  | error e => simp
  | ok next =>
    cases there : t.node? next with
    | none => simp [there]
    | some node => cases node <;> simp [there]

/-- Steps lead where they led as long as the directories on the way stay. -/
theorem KeepsDirectories.walk (keeps : KeepsDirectories t t') {steps : List String}
    {start : FilePlace} (led : t.walk start steps = .ok place) :
    t'.walk start steps = .ok place := by
  induction steps generalizing start with
  | nil => exact led
  | cons name rest ih =>
    obtain ⟨next, landed, directory, led⟩ := walk_cons_eq_ok_iff.mp led
    exact walk_cons_eq_ok_iff.mpr ⟨next, landed, keeps _ directory, ih led⟩

/-- The directory in which the last step of a path is taken stays the same. -/
theorem KeepsDirectories.approach (keeps : KeepsDirectories t t') {path : String}
    (led : t.approach path = .ok place) : t'.approach path = .ok place := by
  unfold FileTree.approach at led ⊢
  split at led
  · cases led
  split at led
  · cases led
  split at led
  · cases led
  rename_i noNul nonempty short
  rw [if_neg noNul, if_neg nonempty, if_neg short]
  exact keeps.walk led

/-- **Paths lead where they led** as long as no directory goes away.  What stands at the end of them
may have changed. -/
theorem KeepsDirectories.resolve (keeps : KeepsDirectories t t') {path : String}
    (led : t.resolve path = .ok place) : t'.resolve path = .ok place := by
  unfold FileTree.resolve at led ⊢
  split at led
  · cases led
  · rename_i approached
    rw [keeps.approach approached]
    exact led

/-- The same where no directory is added either. -/
theorem SameDirectories.resolve (same : SameDirectories t t') {path : String}
    (led : t.resolve path = .ok place) : t'.resolve path = .ok place :=
  same.keeps.resolve led

/-- What a path names stands where the path leads. -/
theorem find_eq_ok_iff {path : String} {node : FileNode} :
    t.find path = .ok (place, node) ↔ t.resolve path = .ok place ∧ t.node? place = some node ∧
      (node = .directory ∨ Path.endsInSlash path = false) := by
  unfold find
  cases t.resolve path with
  | error e => simp
  | ok place' =>
    dsimp only
    cases stands : t.node? place' with
    | none =>
      refine iff_of_false nofun ?_
      rintro ⟨led, there, -⟩
      cases led
      rw [stands] at there
      cases there
    | some node' => cases node' <;> grind

/-- A path names a directory if it leads to one.  A slash at its end does no harm. -/
theorem isDirectory_iff {path : String} :
    t.isDirectory path = true ↔
      ∃ place, t.resolve path = .ok place ∧ t.node? place = some .directory := by
  have named : t.isDirectory path = true ↔ ∃ place, t.find path = .ok (place, .directory) := by
    unfold isDirectory
    split
    · rename_i place found
      simp [found]
    · rename_i other
      simpa using fun place found => other place found
  simp only [named, find_eq_ok_iff, true_or, and_true]

theorem SameDirectories.isDirectory (same : SameDirectories t t') {path : String}
    (directory : t.isDirectory path = true) : t'.isDirectory path = true := by
  obtain ⟨place, led, there⟩ := isDirectory_iff.mp directory
  exact isDirectory_iff.mpr ⟨place, same.resolve led, (same place).mp there⟩

/-! ## Paths of files -/

/-- A path is resolved in two parts, all its steps but the last and then the last.  Only the first
part looks at the tree. -/
theorem resolve_eq_ok_iff {path : String} :
    t.resolve path = .ok place ↔
      ∃ start, t.approach path = .ok start ∧ arrive start path = .ok place := by
  unfold resolve
  cases t.approach path with
  | error e => simp
  | ok start => simp

/-- The name of a file is a step of its own. -/
theorem step_name {name : String} (named : Path.IsName name) (place : FilePlace) :
    place.step name = place ++ [name] := by
  have noStay : name ≠ FilePlace.stay := by
    rintro rfl
    obtain ⟨c, cs, last, noDot⟩ := named.last
    exact noDot (List.cons.inj last).1.symm
  have noUpward : name ≠ FilePlace.upward := by
    rintro rfl
    obtain ⟨c, cs, last, noDot⟩ := named.last
    exact noDot (List.cons.inj last).1.symm
  rw [FilePlace.step, if_neg noStay, if_neg noUpward]

/-- The path of a file leads to a place with the name of the file at its end. -/
theorem getLast?_of_resolve {dir name : String} (named : Path.IsName name)
    (led : t.resolve (Path.join dir name) = .ok place) : place.getLast? = some name := by
  obtain ⟨start, -, arrived⟩ := resolve_eq_ok_iff.mp led
  rw [arrive, Path.steps_join_getLast? named] at arrived
  rw [eq_step_of_land arrived, step_name named, List.getLast?_concat]

/-- That a path leads to a place at which a file can stand.  Whether one does is left open: a
program that writes a file needs no more than this, and one that reads it needs to know besides what
stands there. -/
structure Admits (t : FileTree) (path : String) (place : FilePlace) : Prop where
  led : t.resolve path = .ok place
  noSlash : Path.endsInSlash path = false
  noDirectory : t.node? place ≠ some .directory

section Admits

variable {path : String} (admits : t.Admits path place)

include admits

theorem Admits.of_same (same : SameDirectories t t') : t'.Admits path place :=
  ⟨same.resolve admits.led, admits.noSlash, fun there => admits.noDirectory ((same _).mpr there)⟩

theorem Admits.filePlace (slash : FileError) : t.filePlace path slash = .ok place := by
  obtain ⟨start, approached, arrived⟩ := resolve_eq_ok_iff.mp admits.led
  -- rules out the one branch in which something is wrong with what stands there
  have noDirectory := admits.noDirectory
  unfold FileTree.filePlace
  simp only [approached, admits.noSlash, Bool.false_eq_true, if_false, arrived]

theorem Admits.find {content : ByteArray} (there : t.node? place = some (.file content)) :
    t.find path = .ok (place, .file content) := by
  unfold FileTree.find
  simp only [admits.led, there, admits.noSlash, Bool.false_eq_true, if_false]

/-- A file with a text in it is read as this text. -/
theorem Admits.readText {text : String}
    (there : t.node? place = some (.file (Utf8.encode text))) : t.readText path = .ok text := by
  simp only [FileTree.readText, FileTree.read, admits.find there, Utf8.decode?_encode]

theorem Admits.find_none (absent : t.node? place = none) : t.find path = .error .notFound := by
  unfold FileTree.find
  simp only [admits.led, absent]

/-- No directory stands where a file can stand. -/
theorem Admits.isDirectory : t.isDirectory path = false := by
  cases stands : t.node? place with
  | none => rw [FileTree.isDirectory, admits.find_none stands]
  | some node =>
    cases node with
    | file content => rw [FileTree.isDirectory, admits.find stands]
    | directory => exact absurd stands admits.noDirectory

end Admits

section Actions

variable {path path' : String} {place' : FilePlace}

/-- Opening a file to write it leaves an empty one, whatever stood there. -/
theorem perform_truncate (admits : t.Admits path place) :
    t.perform (.truncate path) = (t.put place (.file .empty), none) := by
  simp only [perform, truncate, admits.filePlace]
  rfl

/-- Bytes that are put over no others are all there is.  Over others they would be their beginning,
since nothing is cut off. -/
theorem overwrite_of_empty (admits : t.Admits path place)
    (there : t.node? place = some (.file .empty)) (content : ByteArray) :
    t.overwrite path content = .ok (t.put place (.file content)) := by
  have all : content ++ ByteArray.empty.extract content.size ByteArray.empty.size = content := by
    apply ByteArray.ext
    simp
  simp only [overwrite, admits.find there, all]

/-- Writing what was opened leaves the file with what was written. -/
theorem perform_overwrite (admits : t.Admits path place)
    (there : t.node? place = some (.file .empty)) (content : ByteArray) :
    t.perform (.overwrite path content) = (t.put place (.file content), none) := by
  rw [perform, overwrite_of_empty admits there]
  rfl

/-- A file that is renamed stands under its new name and not under its old one, even if there was
another under the new name. -/
theorem perform_rename {content : ByteArray} (admits : t.Admits path place)
    (admits' : t.Admits path' place') (there : t.node? place = some (.file content)) :
    t.perform (.rename path path') = ((t.erase place).put place' (.file content), none) := by
  simp only [perform, rename, admits.find there, admits'.filePlace]
  rfl

end Actions

theorem makeDirectories_of_isDirectory {path : String} (directory : t.isDirectory path = true) :
    t.makeDirectories path = (t, none) := by
  obtain ⟨place, led, there⟩ := isDirectory_iff.mp directory
  have made : t.ensureDirectory path = .ok t := by
    have exists' : t.makeDirectory path = .error .alreadyExists := by
      unfold makeDirectory
      simp only [led, there]
    unfold ensureDirectory
    simp only [exists', directory, if_true]
  unfold makeDirectories makeDirectoriesWithin
  split
  · rfl
  · simp only [made]

end FileTree

end Decipher
