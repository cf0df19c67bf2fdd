import Decipher.Proofs.Files.Rooted

/-!
# Paths that lead downward

A path without steps upward (`Path.Descends`) leads from each directory to one in it, and to a
place that can be told from the path alone (`FilePlace.along`).  Making its directories makes
directories on the way to that place and no others.  So a directory that was not there has nothing
in it when it is made, and what the names in it mean does not change (`find_made`).

With steps upward this fails: once `d/new` is made, `d/new/..` is `d`, whatever stands there.

* `Path.steps_parent`, `FilePlace.along_parent`: the directory above is on the way.
* `eq_along_of_resolve`: where a path leads, in whatever tree.
* `makes_along`: what making directories leaves alone.
* `find_made`: what making directories does not let appear.

The way down is why a place can be told from a path at all.  In general a path is followed in a
tree, and the same path leads to different places in different trees or, after a directory was
made, in the same one.  Paths without steps upward lead to one place if they lead anywhere.  So the
directories on the way can be compared as lists, and whether something is beside the way is a
matter of prefixes.
-/

namespace Decipher

/-! ## Paths -/

namespace Path

/-- That a path has no step upward.  Such a path leads to one place only, whatever directories there
are on the way. -/
def Descends (path : String) : Prop := FilePlace.upward ∉ steps path

instance (path : String) : Decidable (Descends path) := inferInstanceAs (Decidable (_ ∉ _))

/-- The directory above is reached by the first steps of a path.  The steps that stay, which a path
may have at its end, are taken off with the last one. -/
theorem steps_parent (path : String) : steps (parent path) <+: steps path := by
  obtain ⟨k, same⟩ := steps_trimEnd path.toList.reverse
  rw [List.reverse_reverse, String.ofList_toList] at same
  rw [parent, same]
  generalize trimEnd path.toList.reverse = cs
  obtain ⟨k', same'⟩ := steps_trimEnd (cs.dropWhile (· ≠ '/'))
  -- The steps up to the last slash are among those of the path.
  have front : steps (String.ofList (cs.dropWhile (· ≠ '/')).reverse) <+:
      steps (String.ofList cs.reverse) := by
    have whole := List.takeWhile_append_dropWhile (p := (· ≠ '/')) (l := cs)
    cases dropped : cs.dropWhile (· ≠ '/') with
    | nil =>
      rw [List.reverse_nil, steps_nil]
      exact List.nil_prefix
    | cons c rest =>
      have slash : c = '/' := by
        have head := List.head?_dropWhile_not (fun c => decide (c ≠ '/')) cs
        rw [dropped] at head
        simpa using head
      rw [dropped, slash] at whole
      rw [← whole, slash, List.reverse_cons, List.reverse_append, List.reverse_cons,
        List.append_assoc, List.singleton_append, steps_append, steps_append, steps_nil,
        List.append_nil]
      exact List.prefix_append _ _
  rw [same'] at front
  exact ((List.prefix_append _ _).trans front).trans (List.prefix_append _ _)

/-- The path of the directory above is the beginning of a path. -/
theorem parent_append (path : String) : ∃ behind, path = parent path ++ behind := by
  obtain ⟨dropped, split, -⟩ := trimEnd_suffix path.toList.reverse
  obtain ⟨dropped', split', -⟩ :=
    trimEnd_suffix ((trimEnd path.toList.reverse).dropWhile (· ≠ '/'))
  have whole := List.takeWhile_append_dropWhile (p := (· ≠ '/'))
    (l := trimEnd path.toList.reverse)
  rw [split', ← List.append_assoc] at whole
  rw [← whole] at split
  have chars := congrArg List.reverse split
  rw [List.reverse_reverse, List.reverse_append, List.reverse_append, List.append_assoc] at chars
  refine ⟨String.ofList ?_, ?_⟩
  rotate_left
  · apply String.toList_inj.mp
    rw [parent, String.toList_append, String.toList_ofList, String.toList_ofList]
    exact chars

theorem Descends.parent {path : String} (descends : Descends path) :
    Descends (Path.parent path) :=
  fun there => descends ((steps_parent path).subset there)

theorem Descends.parents {path : String} (descends : Descends path) (n : Nat) :
    Descends (Path.parent^[n] path) := by
  induction n with
  | zero => exact descends
  | succ n ih =>
    rw [Function.iterate_succ_apply']
    exact ih.parent

/-- Above a path that says nothing there is none. -/
theorem parent_empty : parent "" = "" := by decide

end Path

/-- A path and that of the directory above start at the same place, unless the second says nothing.
-/
theorem FileTree.origin_parent {path : String} (some : Path.parent path ≠ "") :
    origin path = origin (Path.parent path) := by
  obtain ⟨behind, whole⟩ := Path.parent_append path
  rw [← origin_append some behind, ← whole]

namespace FilePlace

/-- The place to which a path without steps upward leads.  Nothing is looked at in a tree, so that
the place is known before there is anything at it. -/
def along (path : String) : FilePlace :=
  FileTree.origin path ++ (Path.steps path).filter (· ≠ stay)

theorem along_empty : along "" = [] := rfl

/-- The place of the directory above is on the way. -/
theorem along_parent (path : String) : along (Path.parent path) <+: along path := by
  by_cases none : Path.parent path = ""
  · rw [none, along_empty]
    exact List.nil_prefix
  · rw [along, along, FileTree.origin_parent none, List.prefix_append_right_inj]
    exact (Path.steps_parent path).filter _

theorem along_parents (path : String) (n : Nat) : along (Path.parent^[n] path) <+: along path := by
  induction n with
  | zero => exact List.prefix_refl _
  | succ n ih =>
    rw [Function.iterate_succ_apply']
    exact (along_parent _).trans ih

end FilePlace

namespace FileTree

variable {t t' : FileTree} {dir name path : String} {start place base : FilePlace}

/-! ## Down the way -/

/-- A step that is not upward leads to what it names. -/
theorem eq_of_land (notUpward : FilePlace.upward ≠ name) (landed : land start name = .ok place) :
    place = start ++ [name].filter (· ≠ FilePlace.stay) := by
  rw [eq_step_of_land landed, FilePlace.step]
  split
  · rename_i stays
    simp [stays]
  · rename_i goes
    rw [if_neg (Ne.symm notUpward)]
    simp [goes]

/-- Without a step upward, steps lead to the place that they name.  With one they would lead above,
wherever that is. -/
theorem eq_of_walk {steps : List String} (descends : FilePlace.upward ∉ steps)
    (led : t.walk start steps = .ok place) :
    place = start ++ steps.filter (· ≠ FilePlace.stay) := by
  induction steps generalizing start with
  | nil =>
    cases led
    simp
  | cons name rest ih =>
    rw [List.mem_cons, not_or] at descends
    obtain ⟨notUpward, descends⟩ := descends
    obtain ⟨next, landed, -, led⟩ := walk_cons_eq_ok_iff.mp led
    rw [ih descends led, eq_of_land notUpward landed, List.append_assoc, ← List.filter_append,
      List.singleton_append]

/-- A path leads to the place that it names, as long as it has no step upward. -/
theorem eq_along_of_resolve (descends : Path.Descends path) (led : t.resolve path = .ok place) :
    place = FilePlace.along path := by
  obtain ⟨base, approached, arrived⟩ := resolve_eq_ok_iff.mp led
  obtain ⟨-, -, -, walked⟩ := approach_eq_ok_iff.mp approached
  unfold arrive at arrived
  unfold Path.Descends at descends
  unfold FilePlace.along
  -- The last step is taken by `arrive`, those before by `walk`.
  cases last : (Path.steps path).getLast? with
  | none =>
    rw [last] at arrived
    rw [List.getLast?_eq_none_iff.mp last] at walked ⊢
    cases arrived
    cases walked
    simp
  | some name =>
    rw [last] at arrived
    obtain ⟨before, split⟩ := List.getLast?_eq_some_iff.mp last
    rw [split, List.dropLast_concat] at walked
    rw [split, List.mem_append, List.mem_singleton, not_or] at descends
    obtain ⟨descends, notUpward⟩ := descends
    rw [eq_of_land notUpward arrived, eq_of_walk descends walked, split, List.filter_append,
      List.append_assoc]

/-- Steps lead to a directory in every rooted tree that has it.  The other tree lends the steps
only: that they lead there once shows that none of them is too long. -/
theorem Rooted.walk (rooted : t.Rooted) {steps : List String}
    (descends : FilePlace.upward ∉ steps) (led : t'.walk start steps = .ok place)
    (there : t.node? place = some .directory) : t.walk start steps = .ok place := by
  induction steps generalizing start with
  | nil => exact led
  | cons name rest ih =>
    rw [List.mem_cons, not_or] at descends
    obtain ⟨-, descends⟩ := descends
    obtain ⟨next, landed, -, led⟩ := walk_cons_eq_ok_iff.mp led
    have directory : t.node? next = some .directory := by
      rw [eq_of_walk descends led] at there
      exact rooted.above there
    exact walk_cons_eq_ok_iff.mpr ⟨next, landed, directory, ih descends led⟩

/-! ## Directories that are made -/

/-- A path that says nothing has no directories to make. -/
theorem makeDirectoriesWithin_empty (fuel : Nat) (t : FileTree) :
    makeDirectoriesWithin fuel t "" = (t, none) := by
  cases fuel <;> rfl

/-- Only the directory that a path names is made by itself. -/
theorem ensures_along (descends : Path.Descends path) (ensures : t.Ensures path t')
    {other : FilePlace} (beside : ¬ other <+: FilePlace.along path) :
    t'.node? other = t.node? other := by
  cases ensures with
  | there directory => rfl
  | made place led absent =>
    rw [node?_put (isGiven_of_node? (by rw [absent]; nofun)), if_neg]
    rintro rfl
    rw [eq_along_of_resolve descends led] at beside
    exact beside (List.prefix_refl _)

/-- **Making directories makes those on the way, and no others.**  Places that are not on the way
keep what stands there, nothing included. -/
theorem makes_along (descends : Path.Descends path) (makes : t.Makes path t')
    {other : FilePlace} (beside : ¬ other <+: FilePlace.along path) :
    t'.node? other = t.node? other := by
  induction makes with
  | nothing => rfl
  | further n t' t'' before ensures ih =>
    have beside' : ¬ other <+: FilePlace.along (Path.parent^[n] path) :=
      fun among => beside (among.trans (FilePlace.along_parents path n))
    exact (ensures_along (descends.parents n) ensures beside').trans ih

/-! ## Directories that are there -/

/-- What a path leads into is a directory, if the path is not too long.  To enter it is to take all
steps; to ask for it is to take all but the last, and to see where that one lands. -/
theorem Enters.isDirectory (enters : t.Enters dir base) (short : dir.utf8ByteSize < pathLimit) :
    t.isDirectory dir = true := by
  have directory := directory_of_walk enters.walked (node?_origin t dir)
  refine isDirectory_iff.mpr ⟨base, resolve_eq_ok_iff.mpr ?_, directory⟩
  have walked := enters.walked
  -- Walking all steps has to be told as walking all but the last and landing with it.
  cases last : (Path.steps dir).getLast? with
  | none =>
    have none : Path.steps dir = [] := List.getLast?_eq_none_iff.mp last
    refine ⟨base, approach_eq_ok_iff.mpr ⟨enters.noNul, enters.nonempty, short, ?_⟩, ?_⟩
    · rw [none] at walked ⊢
      exact walked
    · rw [arrive, last]
  | some name =>
    obtain ⟨before, split⟩ := List.getLast?_eq_some_iff.mp last
    rw [split] at walked
    obtain ⟨place, reached, walked⟩ := walk_append_eq_ok_iff.mp walked
    obtain ⟨next, landed, -, ended⟩ := walk_cons_eq_ok_iff.mp walked
    cases ended
    refine ⟨place, approach_eq_ok_iff.mpr ⟨enters.noNul, enters.nonempty, short, ?_⟩, ?_⟩
    · rw [split, List.dropLast_concat]
      exact reached
    · rw [arrive, last]
      exact landed

/-- Above a directory there are directories, or the path ends.  The path of the directory above may
say nothing, and then it stands for the working directory. -/
theorem isDirectory_parent (directory : t.isDirectory dir = true) :
    Path.parent dir = "" ∨ t.isDirectory (Path.parent dir) = true := by
  by_cases none : Path.parent dir = ""
  · exact .inl none
  right
  obtain ⟨base, enters⟩ := enters_of_isDirectory directory
  obtain ⟨place, led, -⟩ := isDirectory_iff.mp directory
  obtain ⟨_, approached, -⟩ := resolve_eq_ok_iff.mp led
  obtain ⟨noNul, -, short, -⟩ := approach_eq_ok_iff.mp approached
  obtain ⟨behind, whole⟩ := Path.parent_append dir
  obtain ⟨rest, steps⟩ := Path.steps_parent dir
  have walked := enters.walked
  rw [← steps, origin_parent none] at walked
  obtain ⟨place, reached, -⟩ := walk_append_eq_ok_iff.mp walked
  refine Enters.isDirectory ⟨none, fun there => noNul ?_, reached⟩ ?_
  · rw [whole, String.toList_append]
    exact List.mem_append_left _ there
  · rw [whole, String.utf8ByteSize_append] at short
    omega

/-- Where a directory is, none is made on the way to it. -/
theorem makeDirectories_parents (directory : dir = "" ∨ t.isDirectory dir = true) (n : Nat) :
    t.makeDirectories (Path.parent^[n] dir) = (t, none) := by
  have reached : Path.parent^[n] dir = "" ∨ t.isDirectory (Path.parent^[n] dir) = true := by
    induction n with
    | zero => exact directory
    | succ n ih =>
      rw [Function.iterate_succ_apply']
      obtain none | directory := ih
      · rw [none]
        exact .inl Path.parent_empty
      · exact isDirectory_parent directory
  obtain none | directory := reached
  · rw [none, makeDirectories, makeDirectoriesWithin_empty]
  · exact makeDirectories_of_isDirectory directory

/-- A directory that was made is there. -/
theorem Ensures.isDirectory (ensures : t.Ensures path t') : t'.isDirectory path = true := by
  cases ensures with
  | there directory => exact directory
  | made place led absent =>
    have free : place.isGiven = false := by
      apply isGiven_of_node? (t := t)
      rw [absent]
      nofun
    refine isDirectory_iff.mpr ⟨place, (grows_put absent).keepsDirectories.resolve led, ?_⟩
    rw [node?_put free, if_pos rfl]

/-- Directories that were made are there, all the way to the path itself. -/
theorem isDirectory_of_makeDirectoriesWithin {fuel : Nat}
    (made : makeDirectoriesWithin fuel t path = (t', none)) :
    path = "" ∨ t'.isDirectory path = true := by
  unfold makeDirectoriesWithin at made
  split at made
  · rename_i empty
    exact .inl (String.isEmpty_iff.mp empty)
  right
  split at made
  · rename_i ensured
    cases made
    exact (ensures_of_ensureDirectory ensured).isDirectory
  · split at made
    · cases made
    split at made
    · cases made
    split at made
    · rename_i ensured
      cases made
      exact (ensures_of_ensureDirectory ensured).isDirectory
    · cases made
  · cases made

/-- A directory that was made need not be made again, even after files have changed.  Of two saves
into one directory the second one finds it there. -/
theorem makeDirectories_of_made (made : t.makeDirectories dir = (t', none)) {u : FileTree}
    (same : SameDirectories t' u) : u.makeDirectories dir = (u, none) := by
  obtain none | directory := isDirectory_of_makeDirectoriesWithin made
  · rw [none, makeDirectories, makeDirectoriesWithin_empty]
  · exact makeDirectories_of_isDirectory (same.isDirectory directory)

/-! ## Files in a directory -/

/-- Where something is found in a directory, the directory is there. -/
theorem enters_of_find {node : FileNode} (named : Path.IsName name) (nonempty : dir ≠ "")
    (found : t.find (Path.join dir name) = .ok (place, node)) :
    ∃ base, t.Enters dir base ∧ dir.utf8ByteSize < pathLimit ∧ place = base ++ [name] ∧
      t.node? place = some node := by
  obtain ⟨led, there, -⟩ := find_eq_ok_iff.mp found
  obtain ⟨base, approached, arrived⟩ := resolve_eq_ok_iff.mp led
  obtain ⟨noNul, -, short, walked⟩ := approach_eq_ok_iff.mp approached
  obtain ⟨behind, whole⟩ : ∃ behind, Path.join dir name = dir ++ behind := by
    obtain joined | joined := Path.join_eq named nonempty
    · exact ⟨name, joined⟩
    · exact ⟨"/" ++ name, by rw [joined, String.append_assoc]⟩
  rw [Path.steps_join named, List.dropLast_concat, whole, origin_append nonempty] at walked
  rw [arrive, Path.steps_join_getLast? named] at arrived
  have placed := eq_step_of_land arrived
  rw [step_name named] at placed
  refine ⟨base, ⟨nonempty, fun nul => noNul ?_, walked⟩, ?_, placed, there⟩
  · rw [whole, String.toList_append]
    exact List.mem_append_left _ nul
  · rw [whole, String.utf8ByteSize_append] at short
    omega

/-- Without its directory nothing is found in it.  Why it is not found may differ from tree to tree,
so that the reason is not compared. -/
theorem find_of_not_isDirectory (named : Path.IsName name) (nonempty : dir ≠ "")
    (noDirectory : ¬ t.isDirectory dir = true) :
    (t.find (Path.join dir name)).toOption = none := by
  cases found : t.find (Path.join dir name) with
  | error e => rfl
  | ok there =>
    obtain ⟨base, enters, short, -⟩ := enters_of_find named nonempty found
    exact absurd (enters.isDirectory short) noDirectory

/-- Nothing is found in a directory that has just been made.  This needs a rooted tree: in another
one something might stand where the directory was missing. -/
theorem Rooted.find_made (rooted : t.Rooted) (descends : Path.Descends dir)
    (named : Path.IsName name) (nonempty : dir ≠ "") (noDirectory : ¬ t.isDirectory dir = true)
    (n : Nat) :
    ((t.makeDirectories (Path.parent^[n] dir)).1.find (Path.join dir name)).toOption = none := by
  cases found : (t.makeDirectories (Path.parent^[n] dir)).1.find (Path.join dir name) with
  | error e => rfl
  | ok there =>
    exfalso
    obtain ⟨base, enters, short, placed, stands⟩ := enters_of_find named nonempty found
    have led : base = FilePlace.along dir := eq_of_walk descends enters.walked
    -- What stands in the directory is deeper than all that was made, so it was there before.
    have kept : (t.makeDirectories (Path.parent^[n] dir)).1.node? there.1 = t.node? there.1 := by
      refine makes_along (descends.parents n) (makes_makeDirectories t _) fun deep => ?_
      have long := (deep.trans (FilePlace.along_parents dir n)).length_le
      rw [placed, led, List.length_append, List.length_singleton] at long
      exact Nat.not_succ_le_self _ long
    rw [kept, placed] at stands
    have directory := rooted base name (by rw [stands]; nofun)
    have walked := rooted.walk descends enters.walked directory
    exact noDirectory (Enters.isDirectory ⟨enters.nonempty, enters.noNul, walked⟩ short)

/-- **What is found in a directory does not change when the directory is made**, or some of those
above it: either it was there before, or nothing is in it. -/
theorem find_made (rooted : t.Rooted) (steady : t.isDirectory dir = true ∨ Path.Descends dir)
    (named : Path.IsName name) (n : Nat) :
    ((t.makeDirectories (Path.parent^[n] dir)).1.find (Path.join dir name)).toOption =
      (t.find (Path.join dir name)).toOption := by
  by_cases directory : dir = "" ∨ t.isDirectory dir = true
  · rw [makeDirectories_parents directory]
  · rw [not_or] at directory
    obtain ⟨nonempty, noDirectory⟩ := directory
    have descends := steady.resolve_left noDirectory
    rw [rooted.find_made descends named nonempty noDirectory,
      find_of_not_isDirectory named nonempty noDirectory]

end FileTree

end Decipher
