import Decipher.Proofs.Files.Directory
import Decipher.Proofs.Files.Growth
import Mathlib.Data.List.Induction

/-!
# Trees with roots

In a file system whatever stands somewhere stands in a directory.  The trees of which this can be
said are the rooted ones: the one with nothing in it, and with every tree those that a program
leaves of it, whatever it does and whether or not it fails.

* `Rooted.above`: above a directory there are directories.
* `Rooted.makeDirectories`, `Rooted.perform`: trees stay rooted.

A tree is a list of entries, and a list may have an entry at a place with nothing around it.  No
operating system lets this happen, and a program cannot make it so; the model does not rule it out
by itself, in order that trees can be written down and compared as lists.  Being rooted is asked
for only where it matters, which is for directories that are made: if something stood in a
directory that is not there, making the directory would let it appear.
-/

namespace Decipher

namespace FileTree

variable {t t' : FileTree} {path : String} {start place : FilePlace}

/-- **That a tree is one of a file system**: whatever stands somewhere stands in a directory.  A
tree is a list of entries, which by itself could have a file in a file. -/
def Rooted (t : FileTree) : Prop :=
  ∀ place name, t.node? (place ++ [name]) ≠ none → t.node? place = some .directory

/-- Above a directory there are directories, all the way to where the place starts.  The induction
is on what comes behind, from its end. -/
theorem Rooted.above (rooted : t.Rooted) {behind : FilePlace}
    (there : t.node? (place ++ behind) = some .directory) : t.node? place = some .directory := by
  induction behind using List.reverseRecOn with
  | nil => rwa [List.append_nil] at there
  | append_singleton before name ih =>
    rw [← List.append_assoc] at there
    exact ih (rooted _ name (by rw [there]; nofun))

/-- Above the places that are always there are such places only. -/
theorem isGiven_of_concat {name : String}
    (given : FilePlace.isGiven (place ++ [name]) = true) : place.isGiven = true := by
  simp only [FilePlace.isGiven, Bool.or_eq_true, List.all_append, Bool.and_eq_true] at given ⊢
  obtain ⟨upward, -⟩ | root := given
  · exact .inl upward
  · have one : place ++ [name] = ["/"] := eq_of_beq root
    cases place with
    | nil => exact .inl rfl
    | cons step rest => simp at one

/-- What is always there is rooted. -/
theorem rooted_empty : Rooted empty := by
  intro place name there
  rw [node?] at there ⊢
  split at there
  · rename_i given
    rw [if_pos (isGiven_of_concat given)]
  · exact absurd rfl there

/-! ## Putting and taking away -/

/-- Something can be put where no directory stands, if there is a directory around it. -/
theorem Rooted.put (rooted : t.Rooted) {node : FileNode}
    (noDirectory : t.node? place ≠ some .directory)
    (within : ∀ start name, place = start ++ [name] → t.node? start = some .directory) :
    (t.put place node).Rooted := by
  have free := isGiven_of_node? noDirectory
  intro other name there
  have directory : t.node? other = some .directory := by
    rw [node?_put free] at there
    split at there
    · rename_i here
      exact within other name here.symm
    · exact rooted other name there
  have other : other ≠ place := by
    rintro rfl
    exact noDirectory directory
  rw [node?_put free, if_neg other, directory]

/-- Something can be put into a directory. -/
theorem Rooted.put_concat (rooted : t.Rooted) (base : FilePlace) (name : String) (node : FileNode)
    (directory : t.node? base = some .directory)
    (noDirectory : t.node? (base ++ [name]) ≠ some .directory) :
    (t.put (base ++ [name]) node).Rooted := by
  refine rooted.put noDirectory fun start name' same => ?_
  rwa [← List.append_inj_left' same rfl]

/-- A file can be taken away, for nothing stands in it.  A directory could not, as long as something
is in it. -/
theorem Rooted.erase (rooted : t.Rooted) (noDirectory : t.node? place ≠ some .directory) :
    (t.erase place).Rooted := by
  have free := isGiven_of_node? noDirectory
  intro other name there
  rw [node?_erase free] at there ⊢
  split at there
  · exact absurd rfl there
  · have directory := rooted other name there
    have other : other ≠ place := by
      rintro rfl
      exact noDirectory directory
    rw [if_neg other, directory]

/-! ## Where paths lead -/

/-- Where a path starts there is a directory. -/
theorem node?_origin (t : FileTree) (path : String) :
    t.node? (origin path) = some .directory := by
  unfold origin
  split <;> rfl

/-- Steps lead from a directory to a directory. -/
theorem directory_of_walk {steps : List String} (led : t.walk start steps = .ok place)
    (there : t.node? start = some .directory) : t.node? place = some .directory := by
  induction steps generalizing start with
  | nil =>
    cases led
    exact there
  | cons name rest ih =>
    obtain ⟨next, -, directory, led⟩ := walk_cons_eq_ok_iff.mp led
    exact ih led directory

/-- Above a directory there is one, or else the directory is one of those that are always there. -/
theorem Rooted.directory_above (rooted : t.Rooted) (there : t.node? place = some .directory) :
    t.node? place.above = some .directory := by
  unfold FilePlace.above
  split
  · rfl
  · split
    · rename_i upward
      have given : FilePlace.isGiven (place ++ [FilePlace.upward]) = true := by
        simp [FilePlace.isGiven, upward]
      rw [node?, if_pos given]
    · rename_i notUpward
      have some : place ≠ [] := by
        rintro rfl
        exact notUpward rfl
      rw [← List.dropLast_concat_getLast some] at there
      exact rooted.above there

/-- A path that does not lead to a directory leads to a place in one.  So a file can be put there.
-/
theorem Rooted.directory_of_resolve (rooted : t.Rooted) (led : t.resolve path = .ok place)
    (noDirectory : t.node? place ≠ some .directory) {name : String}
    (ends : place = start ++ [name]) : t.node? start = some .directory := by
  obtain ⟨base, approached, arrived⟩ := resolve_eq_ok_iff.mp led
  obtain ⟨-, -, -, walked⟩ := approach_eq_ok_iff.mp approached
  have directory := directory_of_walk walked (node?_origin t path)
  unfold arrive at arrived
  split at arrived
  · cases arrived
    exact absurd directory noDirectory
  rw [eq_step_of_land arrived] at noDirectory ends
  unfold FilePlace.step at noDirectory ends
  split at noDirectory
  · exact absurd directory noDirectory
  rename_i notStay
  split at noDirectory
  · exact absurd (rooted.directory_above directory) noDirectory
  rename_i notUpward
  rw [if_neg notStay, if_neg notUpward] at ends
  rwa [← List.append_inj_left' ends rfl]

/-! ## Steps of a program -/

theorem Rooted.ensures (rooted : t.Rooted) (ensures : t.Ensures path t') : t'.Rooted := by
  cases ensures with
  | there directory => exact rooted
  | made place led absent =>
    have noDirectory : t.node? place ≠ some .directory := by simp [absent]
    exact rooted.put noDirectory fun _ _ => rooted.directory_of_resolve led noDirectory

theorem Rooted.makes (rooted : t.Rooted) (makes : t.Makes path t') : t'.Rooted := by
  induction makes with
  | nothing => exact rooted
  | further n t' t'' before ensures ih => exact ih.ensures ensures

theorem Rooted.makeDirectories (rooted : t.Rooted) (path : String) :
    (t.makeDirectories path).1.Rooted :=
  rooted.makes (makes_makeDirectories t path)

theorem Rooted.putFile (rooted : t.Rooted) (admits : t.Admits path place) (content : ByteArray) :
    (t.put place (.file content)).Rooted :=
  rooted.put admits.noDirectory fun _ _ =>
    rooted.directory_of_resolve admits.led admits.noDirectory

/-- What a path names that is a file stands where a file can stand. -/
theorem admits_of_find {content : ByteArray} (found : t.find path = .ok (place, .file content)) :
    t.Admits path place ∧ t.node? place = some (.file content) := by
  obtain ⟨led, there, directory | noSlash⟩ := find_eq_ok_iff.mp found
  · cases directory
  · exact ⟨⟨led, noSlash, by simp [there]⟩, there⟩

/-- A file can be moved to where a file can stand.  The directory that it is moved to is there
after it was taken away, since it is no directory itself. -/
theorem Rooted.move {content : ByteArray} {source target : String} {place' : FilePlace}
    (rooted : t.Rooted) (admits : t.Admits source place) (admits' : t.Admits target place') :
    ((t.erase place).put place' (.file content)).Rooted := by
  have free := isGiven_of_node? admits.noDirectory
  have gone : (t.erase place).node? place' ≠ some .directory := by
    rw [node?_erase free]
    split
    · exact (Option.some_ne_none _).symm
    · exact admits'.noDirectory
  refine (rooted.erase admits.noDirectory).put gone fun start name ends => ?_
  have directory := rooted.directory_of_resolve admits'.led admits'.noDirectory ends
  have other : start ≠ place := by
    rintro rfl
    exact admits.noDirectory directory
  rw [node?_erase free, if_neg other, directory]

/-- **A program leaves a rooted tree rooted**, whatever it does.  The proof goes by the actions of
a program, each of which may fail, and making directories half way. -/
theorem Rooted.perform (rooted : t.Rooted) (action : Action) : (t.perform action).1.Rooted := by
  cases action with
  | makeDirectories path => exact rooted.makeDirectories path
  | truncate path =>
    cases placed : t.filePlace path .isADirectory with
    | error e =>
      simp only [FileTree.perform, truncate, placed]
      exact rooted
    | ok place =>
      rw [perform_truncate (filePlace_eq_ok_iff.mp placed)]
      exact rooted.putFile (filePlace_eq_ok_iff.mp placed) _
  | overwrite path content =>
    simp only [FileTree.perform, overwrite]
    split
    · exact rooted
    · exact rooted
    · rename_i found
      exact rooted.putFile (admits_of_find found).1 _
  | rename source target =>
    cases found : t.find source with
    | error e =>
      simp only [FileTree.perform, rename, found]
      exact rooted
    | ok there =>
      obtain ⟨place, node⟩ := there
      cases node with
      | directory =>
        -- Directories are not renamed.
        simp only [FileTree.perform, rename, found]
        exact rooted
      | file content =>
        cases placed : t.filePlace target .notADirectory with
        | error e =>
          simp only [FileTree.perform, rename, found, placed]
          exact rooted
        | ok place' =>
          obtain ⟨admits, there⟩ := admits_of_find found
          have admits' := filePlace_eq_ok_iff.mp placed
          rw [perform_rename admits admits' there]
          exact rooted.move admits admits'

end FileTree

end Decipher
