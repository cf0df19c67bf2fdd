import Decipher.Proofs.Files.Change
import Mathlib.Logic.Function.Iterate

/-!
# What is there after files were made and written

Making directories adds directories and changes nothing that was there (`Grows`), also if it fails
on the way.  A file can be written just where a path lets a file stand (`Admits`), and what was
written is read again.

* `Makes`: what making directories does, one after another.
* `makeDirectories_grows`: making directories lets a tree grow.
* `filePlace_eq_ok_iff`: where a path lets a file stand.
* `readText_of_write`: what was written is what is read.
* `readText_of_keeps`: a text is read again as long as nothing on the way to it changes.

## One operation and many statements

Making the directories of a path is a recursion that goes up until something is there and down
again, and it may fail at every step.  `Makes` says once what it can do to a tree, step by step;
what follows from it, here that a tree grows, later that it stays rooted and that nothing is made
beside the way, is an induction over `Makes` and does not look at the recursion again.
-/

namespace Decipher

namespace FileTree

variable {t t' t'' : FileTree} {path : String} {place : FilePlace}

/-! ## Directories -/

/-- That a tree has all that another has, and directories besides.  No file is added; but a path may
lead to one that led nowhere before, through a directory that is new. -/
def Grows (t t' : FileTree) : Prop :=
  ∀ place, t'.node? place = t.node? place ∨
    t.node? place = none ∧ t'.node? place = some .directory

theorem Grows.refl (t : FileTree) : Grows t t := fun _ => .inl rfl

theorem Grows.node? (grows : Grows t t') {node : FileNode} (there : t.node? place = some node) :
    t'.node? place = some node := by
  rcases grows place with same | ⟨absent, -⟩
  · rw [same, there]
  · rw [absent] at there
    cases there

theorem Grows.trans (first : Grows t t') (second : Grows t' t'') : Grows t t'' := by
  intro place
  rcases first place with same | ⟨absent, made⟩
  · rw [← same]
    exact second place
  · exact .inr ⟨absent, second.node? made⟩

theorem Grows.keepsDirectories (grows : Grows t t') : KeepsDirectories t t' :=
  fun _ there => grows.node? there

/-- A directory that is put where nothing is lets a tree grow. -/
theorem grows_put (absent : t.node? place = none) : Grows t (t.put place .directory) := by
  have free : place.isGiven = false := by
    apply isGiven_of_node? (t := t)
    rw [absent]
    nofun
  intro other
  rw [node?_put free]
  split
  · rename_i same
    exact .inr ⟨same ▸ absent, rfl⟩
  · exact .inl rfl

/-- **What becomes of a tree in which one directory is made**: nothing if it is there, or else it
stands where its path leads. -/
inductive Ensures (t : FileTree) (path : String) : FileTree → Prop
  | there (directory : t.isDirectory path = true) : Ensures t path t
  | made (place : FilePlace) (led : t.resolve path = .ok place) (absent : t.node? place = none) :
    Ensures t path (t.put place .directory)

/-- Making one directory comes to one of the two ways, if it succeeds.  If it fails nothing is said,
for then nothing is changed. -/
theorem ensures_of_ensureDirectory (made : t.ensureDirectory path = .ok t') :
    t.Ensures path t' := by
  unfold ensureDirectory at made
  split at made
  · rename_i t₁ makes
    cases made
    unfold makeDirectory at makes
    split at makes
    · cases makes
    · rename_i place led
      split at makes
      · cases makes
      · rename_i absent
        cases makes
        exact .made place led absent
  · split at made
    · rename_i directory
      cases made
      exact .there directory
    · cases made

/-- **What becomes of a tree in which directories are made**: they are made one after another, each
of them by the path itself or by the path of a directory above.  The order is left open, and so is
whether all of them were made: it is what an operation comes to that may fail on the way. -/
inductive Makes (t : FileTree) (path : String) : FileTree → Prop
  | nothing : Makes t path t
  | further (n : Nat) (t' t'' : FileTree) (before : Makes t path t')
    (ensures : t'.Ensures (Path.parent^[n] path) t'') : Makes t path t''

/-- To make the directory itself is one way to make directories. -/
theorem Ensures.makes (ensures : t.Ensures path t') : t.Makes path t' :=
  .further 0 t t' .nothing ensures

/-- What is made on the way to the directory above is made on the way to the directory. -/
theorem Makes.of_parent (makes : t.Makes (Path.parent path) t') : t.Makes path t' := by
  induction makes with
  | nothing => exact .nothing
  | further n t' t'' before ensures ih =>
    rw [← Function.iterate_succ_apply] at ensures
    exact .further (n + 1) t' t'' ih ensures

/-- **Making directories makes directories**, also if it fails.  The recursion goes to the directory
above and comes back; the fuel bounds how far up it goes, and running out of it is one more way to
fail. -/
theorem makes_makeDirectoriesWithin (fuel : Nat) (t : FileTree) (path : String) :
    t.Makes path (makeDirectoriesWithin fuel t path).1 := by
  induction fuel generalizing t path with
  | zero =>
    unfold makeDirectoriesWithin
    split
    · exact .nothing
    split
    · rename_i made
      exact (ensures_of_ensureDirectory made).makes
    · exact .nothing
    · exact .nothing
  | succ fuel ih =>
    unfold makeDirectoriesWithin
    split
    · exact .nothing
    split
    · rename_i made
      exact (ensures_of_ensureDirectory made).makes
    · -- Those above are made first.
      have above := (ih t (Path.parent path)).of_parent
      dsimp only
      split
      · rename_i stopped
        rw [stopped] at above
        exact above
      · rename_i t₁ reached
        rw [reached] at above
        split
        · rename_i t₂ made
          exact .further 0 t₁ t₂ above (ensures_of_ensureDirectory made)
        · exact above
    · exact .nothing

theorem makes_makeDirectories (t : FileTree) (path : String) :
    t.Makes path (t.makeDirectories path).1 :=
  makes_makeDirectoriesWithin path.length t path

theorem Ensures.grows (ensures : t.Ensures path t') : Grows t t' := by
  cases ensures with
  | there directory => exact .refl t
  | made place led absent => exact grows_put absent

theorem Makes.grows (makes : t.Makes path t') : Grows t t' := by
  induction makes with
  | nothing => exact .refl t
  | further n t' t'' before ensures ih => exact ih.trans ensures.grows

/-- Making directories adds directories and changes nothing else, even if it fails. -/
theorem makeDirectories_grows (t : FileTree) (path : String) :
    Grows t (t.makeDirectories path).1 :=
  (makes_makeDirectories t path).grows

/-! ## Steps -/

/-- Steps succeed one after another. -/
theorem performAll_cons_eq_none_iff {action : Action} {rest : List Action} :
    (t.performAll (action :: rest)).2 = none ↔
      ∃ t₁, t.perform action = (t₁, none) ∧ (t₁.performAll rest).2 = none := by
  rw [performAll]
  cases done : t.perform action with
  | mk t₁ error =>
    cases error with
    | none => simp
    | some e => simp

/-! ## Files -/

/-- A path lets a file stand at the places that it admits.  The error for a slash at its end depends
on the operation, and plays no part if there is none. -/
theorem filePlace_eq_ok_iff {slash : FileError} :
    t.filePlace path slash = .ok place ↔ t.Admits path place := by
  constructor
  · intro placed
    unfold filePlace at placed
    split at placed
    · cases placed
    rename_i start approached
    split at placed
    · cases placed
    rename_i noSlash
    split at placed
    · cases placed
    rename_i place' arrived
    split at placed
    · cases placed
    rename_i noDirectory
    cases placed
    exact ⟨resolve_eq_ok_iff.mpr ⟨start, approached, arrived⟩, Bool.eq_false_iff.mpr noSlash,
      noDirectory⟩
  · intro admits
    exact admits.filePlace slash

theorem admits_of_perform_truncate (truncated : t.perform (.truncate path) = (t', none)) :
    ∃ place, t.Admits path place := by
  cases placed : t.filePlace path .isADirectory with
  | error e =>
    simp only [perform, truncate, placed] at truncated
    cases truncated
  | ok place => exact ⟨place, filePlace_eq_ok_iff.mp placed⟩

/-- A file is given a name that can be a file's. -/
theorem admits_of_perform_rename {source target : String}
    (renamed : t.perform (.rename source target) = (t', none)) :
    ∃ place, t.Admits target place := by
  simp only [perform, rename] at renamed
  cases found : t.find source with
  | error e =>
    rw [found] at renamed
    cases renamed
  | ok found' =>
    obtain ⟨place, node⟩ := found'
    rw [found] at renamed
    cases node with
    | directory => cases renamed
    | file content =>
      cases placed : t.filePlace target .notADirectory with
      | error e =>
        simp only [placed] at renamed
        cases renamed
      | ok place' => exact ⟨place', filePlace_eq_ok_iff.mp placed⟩

/-- A file that can stand at a path can be written there.  It is empty for a moment, which shows if
somebody reads it meanwhile, and not in what is left. -/
theorem write_of_admits (admits : t.Admits path place) (content : ByteArray) :
    t.write path content = .ok ((t.put place (.file .empty)).put place (.file content)) := by
  have emptied : t.truncate path = .ok (t.put place (.file .empty)) := by
    rw [truncate, admits.filePlace]
    rfl
  have free := isGiven_of_node? admits.noDirectory
  have admits' := admits.of_same (sameDirectories_put .empty admits.noDirectory)
  have there : (t.put place (.file .empty)).node? place = some (.file .empty) := by
    rw [node?_put free, if_pos rfl]
  rw [write, emptied]
  exact overwrite_of_empty admits' there content

theorem admits_of_write {content : ByteArray} (written : t.write path content = .ok t') :
    ∃ place, t.Admits path place := by
  cases placed : t.filePlace path .isADirectory with
  | error e =>
    rw [write, truncate, placed] at written
    cases written
  | ok place => exact ⟨place, filePlace_eq_ok_iff.mp placed⟩

/-- **What was written is what is read.**  The path may be any, as long as the file could be
written. -/
theorem readText_of_write {text : String} (written : t.write path (Utf8.encode text) = .ok t') :
    t'.readText path = .ok text := by
  obtain ⟨place, admits⟩ := admits_of_write written
  rw [write_of_admits admits] at written
  cases written
  have free := isGiven_of_node? admits.noDirectory
  have admits₁ := admits.of_same (sameDirectories_put .empty admits.noDirectory)
  have admits₂ := admits₁.of_same
    (sameDirectories_put (Utf8.encode text) admits₁.noDirectory)
  exact admits₂.readText (by rw [node?_put free, if_pos rfl])

/-! ## Texts -/

/-- A text is what stands in a file where one can stand.  This takes reading apart into where the
path leads and what stands there, which is how changes of a tree are described. -/
theorem readText_eq_ok_iff {text : String} :
    t.readText path = .ok text ↔
      ∃ place content, t.Admits path place ∧ t.node? place = some (.file content) ∧
        Utf8.decode? content = some text := by
  constructor
  · intro there
    unfold readText read at there
    cases found : t.find path with
    | error e => simp only [found, reduceCtorEq] at there
    | ok named =>
      obtain ⟨place, node⟩ := named
      cases node with
      | directory => simp only [found, reduceCtorEq] at there
      | file content =>
        simp only [found] at there
        -- A slash at the end is for directories, and a file stands here.
        obtain ⟨led, stands, directory | noSlash⟩ := find_eq_ok_iff.mp found
        · cases directory
        cases decodes : Utf8.decode? content with
        | none => simp only [decodes, reduceCtorEq] at there
        | some text' =>
          simp only [decodes, Except.ok.injEq] at there
          exact ⟨place, content, ⟨led, noSlash, by simp [stands]⟩, stands, there ▸ decodes⟩
  · rintro ⟨place, content, admits, there, decodes⟩
    simp only [readText, read, admits.find there, decodes]

/-- A text is read as long as the directories on the way stay, and the file where they lead.  The
converse fails: a text may be read afterwards because a directory was made on the way to it. -/
theorem readText_of_keeps {text : String} (keeps : KeepsDirectories t t')
    (kept : ∀ place content, t.resolve path = .ok place → t.node? place = some (.file content) →
      t'.node? place = some (.file content))
    (there : t.readText path = .ok text) : t'.readText path = .ok text := by
  obtain ⟨place, content, admits, stands, decodes⟩ := readText_eq_ok_iff.mp there
  have stands' := kept place content admits.led stands
  refine readText_eq_ok_iff.mpr ⟨place, content, ?_, stands', decodes⟩
  exact ⟨keeps.resolve admits.led, admits.noSlash, by simp [stands']⟩

/-- Making directories takes no text away. -/
theorem Grows.readText {text : String} (grows : Grows t t') (there : t.readText path = .ok text) :
    t'.readText path = .ok text :=
  readText_of_keeps grows.keepsDirectories (fun _ _ _ stands => grows.node? stands) there

end FileTree

end Decipher
