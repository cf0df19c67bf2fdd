import Decipher.Proofs.Files.Change
import Decipher.Text.Position

/-!
# Files beside each other

The path of a directory can end in slashes, and in steps that lead nowhere else.  Whatever it looks
like, the files in the directory stand at places that differ in their names only, whether they are
named from the path of the directory (`Path.join`) or from that of another file in it
(`Path.parent`).

* `Enters`: that a path leads into a directory.
* `Enters.resolve_join`: where the files in it stand.
* `Enters.parent`: the directory of a file in it.

A program that is given a directory and saves a file in it makes two paths: one for the file, with
the name behind that of the directory, and one for the temporary file, which is made of the first
by another name in the directory of the file.  As texts the two need not have the same beginning,
for what is taken off at the end of a path may be more than the name.  As places they differ in
their last step alone, and that is what `Enters` says of both.
-/

namespace Decipher

namespace FileTree

variable {t t' : FileTree} {dir name : String} {start place base : FilePlace}

/-! ## Steps -/

/-- Steps lead on from where those before them lead. -/
theorem walk_append_eq_ok_iff {steps steps' : List String} :
    t.walk start (steps ++ steps') = .ok place ↔
      ∃ next, t.walk start steps = .ok next ∧ t.walk next steps' = .ok place := by
  induction steps generalizing start with
  | nil => simp [walk]
  | cons name rest ih =>
    simp only [List.cons_append, walk_cons_eq_ok_iff, ih]
    constructor
    · rintro ⟨first, landed, directory, next, led, led'⟩
      exact ⟨next, ⟨first, landed, directory, led⟩, led'⟩
    · rintro ⟨next, ⟨first, landed, directory, led⟩, led'⟩
      exact ⟨first, landed, directory, next, led, led'⟩

theorem walk_stay {k : Nat} (led : t.walk start (List.replicate k ".") = .ok place) :
    place = start := by
  induction k with
  | zero =>
    cases led
    rfl
  | succ k ih =>
    rw [List.replicate_succ] at led
    obtain ⟨next, landed, -, led⟩ := walk_cons_eq_ok_iff.mp led
    have stays : next = start := eq_step_of_land landed
    rw [stays] at led
    exact ih led

/-! ## Into a directory -/

/-- The place at which a path starts: the root for an absolute path, and else the working directory.
-/
def origin (path : String) : FilePlace := if Path.isAbsolute path then .root else []

/-- A path that says something says where it starts by its beginning. -/
theorem origin_append {path : String} (some : path ≠ "") (behind : String) :
    origin (path ++ behind) = origin path := by
  obtain ⟨c, cs, chars⟩ : ∃ c cs, path.toList = c :: cs := by
    cases chars : path.toList with
    | nil => exact absurd (String.toList_inj.mp chars) some
    | cons c cs => exact ⟨c, cs, rfl⟩
  simp [origin, Path.isAbsolute, chars]

/-- That a path leads into a directory.  It may be too long to be resolved by itself; what matters
is where the paths lead that go on from it. -/
structure Enters (t : FileTree) (dir : String) (base : FilePlace) : Prop where
  nonempty : dir ≠ ""
  noNul : '\x00' ∉ dir.toList
  walked : t.walk (origin dir) (Path.steps dir) = .ok base

/-- All of a path but its last step is taken if the path is no nonsense and not too long. -/
theorem approach_eq_ok_iff {path : String} :
    t.approach path = .ok place ↔
      '\x00' ∉ path.toList ∧ path ≠ "" ∧ path.utf8ByteSize < pathLimit ∧
        t.walk (origin path) (Path.steps path).dropLast = .ok place := by
  unfold approach origin
  split
  · rename_i nul
    refine iff_of_false nofun ?_
    rintro ⟨noNul, -⟩
    exact noNul (List.contains_iff_mem.mp nul)
  rename_i noNul
  rw [List.contains_iff_mem] at noNul
  split
  · rename_i empty
    refine iff_of_false nofun ?_
    rintro ⟨-, nonempty, -⟩
    exact nonempty (by simpa using empty)
  rename_i nonempty
  split
  · rename_i long
    refine iff_of_false nofun ?_
    rintro ⟨-, -, short, -⟩
    omega
  · rename_i short
    have some : path ≠ "" := by simpa using nonempty
    simp only [noNul, some, not_false_eq_true, ne_eq, true_and, Nat.not_le.mp short]

/-- A path that names a directory leads into it.  Its last step is one like the others then. -/
theorem enters_of_isDirectory (directory : t.isDirectory dir = true) :
    ∃ base, t.Enters dir base := by
  obtain ⟨base, led, there⟩ := isDirectory_iff.mp directory
  obtain ⟨place, approached, arrived⟩ := resolve_eq_ok_iff.mp led
  obtain ⟨noNul, nonempty, -, walked⟩ := approach_eq_ok_iff.mp approached
  refine ⟨base, nonempty, noNul, ?_⟩
  unfold arrive at arrived
  cases last : (Path.steps dir).getLast? with
  | none =>
    have none : Path.steps dir = [] := List.getLast?_eq_none_iff.mp last
    rw [last] at arrived
    cases arrived
    rw [none] at walked ⊢
    exact walked
  | some name =>
    rw [last] at arrived
    dsimp only at arrived
    -- Arriving takes the last step, into a directory that is there.
    obtain ⟨before, split⟩ := List.getLast?_eq_some_iff.mp last
    rw [split, List.dropLast_concat] at walked
    rw [split]
    have step : t.walk place [name] = .ok base :=
      walk_cons_eq_ok_iff.mpr ⟨base, arrived, there, rfl⟩
    exact walk_append_eq_ok_iff.mpr ⟨place, walked, step⟩

namespace Enters

variable (enters : t.Enters dir base)

include enters

theorem of_keeps (keeps : KeepsDirectories t t') : t'.Enters dir base :=
  ⟨enters.nonempty, enters.noNul, keeps.walk enters.walked⟩

/-- A file in a directory stands at the place of the directory, under its name.  The bounds are
those of the name and of the whole path. -/
theorem resolve_join (named : Path.IsName name) (noNul : '\x00' ∉ name.toList)
    (short : name.utf8ByteSize ≤ maxNameLength)
    (fits : dir.utf8ByteSize + name.utf8ByteSize + 1 < pathLimit) :
    t.resolve (Path.join dir name) = .ok (base ++ [name]) := by
  have origins : origin (Path.join dir name) = origin dir := by
    rw [origin, origin, Path.isAbsolute_join named enters.nonempty]
  refine resolve_eq_ok_iff.mpr ⟨base, approach_eq_ok_iff.mpr ⟨?_, ?_, ?_, ?_⟩, ?_⟩
  · intro there
    obtain there | there | there := Path.mem_join named enters.nonempty there
    · exact enters.noNul there
    · cases there
    · exact noNul there
  · intro empty
    have steps := Path.steps_join named dir
    rw [empty] at steps
    simp [Path.steps, Path.split] at steps
  · have size := Path.utf8ByteSize_join_le named enters.nonempty
    omega
  · rw [origins, Path.steps_join named, List.dropLast_concat]
    exact enters.walked
  · rw [arrive, Path.steps_join_getLast? named]
    dsimp only
    rw [land, if_neg (Nat.not_lt.mpr short), step_name named]

/-- Where a file in a directory stands depends on nothing but the place of the directory. -/
theorem resolve_eq (enters' : t'.Enters dir base) (named : Path.IsName name) :
    t.resolve (Path.join dir name) = t'.resolve (Path.join dir name) := by
  have origins : origin (Path.join dir name) = origin dir := by
    rw [origin, origin, Path.isAbsolute_join named enters.nonempty]
  have walked := enters.walked
  have walked' := enters'.walked
  rw [← origins, origin] at walked walked'
  simp only [resolve, approach, Path.steps_join named, List.dropLast_concat, walked, walked']

/-- The directory of a file is the one that it was made of.  Its path may have become shorter, by
slashes and by steps that stay. -/
theorem parent (named : Path.IsName name) :
    t.Enters (Path.parent (Path.join dir name)) base ∧
      (Path.parent (Path.join dir name)).utf8ByteSize ≤ dir.utf8ByteSize := by
  obtain ⟨some, ⟨behind, whole⟩, k, steps⟩ := Path.parent_join_append named enters.nonempty
  generalize Path.parent (Path.join dir name) = kept at *
  have walked := enters.walked
  rw [whole, origin_append some, ← whole, steps] at walked
  -- The path of the directory goes on with steps that stay, so what is before them leads there.
  obtain ⟨place, reached, stays⟩ := walk_append_eq_ok_iff.mp walked
  obtain rfl := walk_stay stays
  refine ⟨⟨some, ?_, reached⟩, ?_⟩
  · intro there
    exact enters.noNul (by simp [whole, there])
  · rw [whole, String.utf8ByteSize_append]
    omega

end Enters

/-- What a path names depends on where it leads and on what stands there. -/
theorem find_eq {path : String} (led : t.resolve path = t'.resolve path)
    (stands : ∀ place, t.resolve path = .ok place → t.node? place = t'.node? place) :
    t.find path = t'.find path := by
  rw [find, find, ← led]
  cases leads : t.resolve path with
  | error e => rfl
  | ok place =>
    dsimp only
    rw [stands place leads]

theorem read_congr {path : String} (same : t.find path = t'.find path) :
    t.read path = t'.read path := by
  rw [read, read, same]

end FileTree

end Decipher
