import Decipher.Cache.Race
import Decipher.Proofs.Cache.Interruption
import Mathlib.Data.List.Induction

/-!
# Steps of saves that race

What a step of a save does to the two files that it works on, its own temporary file and the entry,
and to the other save, which may have one of them open.

* `FileCache.readingBytes`: what an entry reads as that holds certain bytes.
* `SaveRace.run_alone`: a save that nobody disturbs.
* `Contest`: what two saves race for.
* `Contest.Next`: what comes of a step.

## A file that is open

An operating system lets a program write into a file that it has open, wherever the file has gone
since.  The model keeps the place of the open file in the stage of the save (`SaveStage.writing`),
and a renaming moves this place along (`SaveStage.follow`).  So two saves that share a temporary
file act on one another in three ways only: one empties the file of the other, one writes over the
bytes of the other, and one moves the file away from under the other.

The lemmas come in three layers.  Those of `SaveStage` say what one step does in a tree; those of
`SaveRace` what a turn does to both saves; those of `Contest` what it does to the two places, given
what stood there.  The last are all that the invariants of the race look at (`Contest.Next`), and
each has one stage in front and one behind.
-/

namespace Decipher

namespace Side

variable (who side : Side)

@[simp] theorem other_other : who.other.other = who := by cases who <;> rfl

@[simp] theorem other_ne : who.other ≠ who := by cases who <;> nofun

/-- Whoever moves is one or the other.  All case distinctions between the two saves are made with
this, from the point of view of one of them. -/
theorem eq_or_eq_other : side = who ∨ side = who.other := by
  cases who <;> cases side <;> simp [other]

end Side

/-! ## Bytes in an entry -/

namespace FileCache

variable {α : Type} [Storable α] {c : FileCache α} {t : FileTree} {digest : String}

/-- What the entry of a digest reads as if it holds certain bytes.  They need not be a text: of one
save written over another the rest may start within a character. -/
def readingBytes (c : FileCache α) (digest : String) (bytes : ByteArray) :
    Except CacheError (Option α) :=
  match Utf8.decode? bytes with
  | none => .error (.unreadable (c.entryPath digest) .notText)
  | some text => c.reading digest text

/-- The bytes of a value are read as its text is. -/
theorem readingBytes_content (c : FileCache α) (digest : String) (value : α) :
    c.readingBytes digest (content value) = c.reading digest (Storable.toText value) := by
  rw [readingBytes, content, Utf8.decode?_encode]

/-- What is loaded from an entry depends on its bytes alone. -/
theorem load_of_bytes {bytes : ByteArray} {entry : FilePlace}
    (admits : t.Admits (c.entryPath digest) entry)
    (there : t.node? entry = some (.file bytes)) :
    c.load t digest = c.readingBytes digest bytes := by
  cases decodes : Utf8.decode? bytes with
  | some text =>
    rw [readingBytes, decodes]
    exact load_of_text (FileTree.readText_eq_ok_iff.mpr ⟨entry, bytes, admits, there, decodes⟩)
  | none =>
    have found := admits.find there
    have named : t.pathExists (c.entryPath digest) = true := by
      rw [FileTree.pathExists, found]
      rfl
    have noText : t.readText (c.entryPath digest) = .error .notText := by
      simp only [FileTree.readText, FileTree.read, found, decodes]
    rw [readingBytes, decodes, load]
    simp only [named, if_true, noText]

end FileCache

/-! ## Steps -/

namespace FileTree

@[simp] theorem overlay_empty (content : ByteArray) : overlay content .empty = content := by
  apply ByteArray.ext
  simp [overlay]

/-- A file that is emptied and filled holds what it was filled with. -/
theorem performAll_fill {t : FileTree} {path : String} {place : FilePlace}
    (admits : t.Admits path place) (content : ByteArray) (rest : List Action) :
    t.performAll (.truncate path :: .overwrite path content :: rest) =
      ((t.put place (.file .empty)).put place (.file content)).performAll rest := by
  have free := isGiven_of_node? admits.noDirectory
  have admits' := admits.of_same (sameDirectories_put .empty admits.noDirectory)
  have empty : (t.put place (.file .empty)).node? place = some (.file .empty) := by
    rw [node?_put free, if_pos rfl]
  rw [performAll_cons, perform_truncate admits]
  dsimp only
  rw [performAll_cons, perform_overwrite admits' empty]

end FileTree

namespace SaveStage

variable {α : Type} [Storable α] {c : FileCache α} {digest : String} {t t' ready : FileTree}
  {e : FileError} {place place' : FilePlace} {bytes : ByteArray}

open FileCache (temporaryPath)

theorem follow_none (stage : SaveStage) : stage.follow none = stage := by
  cases stage with
  | writing file => cases file <;> rfl
  | _ => rfl

/-- The number of steps that a save has still to take.  It never grows, and each turn of its own
makes it smaller as long as it is not zero. -/
def rank : SaveStage → Nat
  | making => 4
  | opening => 3
  | writing _ => 2
  | naming => 1
  | finished _ => 0

theorem rank_follow (move : Option (FilePlace × FilePlace)) (stage : SaveStage) :
    (stage.follow move).rank = stage.rank := by
  cases stage with
  | writing file =>
    cases file with
    | none => rfl
    | some place => cases move <;> rfl
  | _ => rfl

/-- A step brings a save closer to its end, if it is not there already, whether or not the step
succeeds. -/
theorem rank_step (c : FileCache α) (digest : String) (value : α) (t : FileTree)
    (stage : SaveStage) : (stage.step c digest value t).2.1.rank ≤ stage.rank - 1 := by
  unfold step
  cases stage with
  | making =>
    dsimp only
    split <;> simp [rank]
  | opening =>
    dsimp only
    split <;> simp [rank]
  | writing file => exact Nat.le_refl 1
  | naming =>
    dsimp only
    split <;> simp [rank]
  | finished result => exact Nat.le_refl 0

/-- A save without steps left is finished. -/
theorem finished_of_rank {stage : SaveStage} (none : stage.rank = 0) :
    ∃ result, stage = finished result := by
  cases stage with
  | finished result => exact ⟨result, rfl⟩
  | _ => cases none

/-- The directory is made, and the file comes next. -/
theorem step_making (made : t.makeDirectories c.dir = (ready, none)) (digest : String)
    (value : α) :
    making.step c digest value t = (ready, opening, none) := by
  unfold step
  simp only [made]

/-- Without its directory a save is finished. -/
theorem step_making_of_error (fails : t.makeDirectories c.dir = (ready, some e))
    (digest : String) (value : α) :
    making.step c digest value t = (ready, finished (.error (.noDirectory c.dir e)), none) := by
  unfold step
  simp only [fails]

/-- The temporary file is opened, and emptied if it was there.  The save has it open at its place
from now on. -/
theorem step_opening (admits : t.Admits (temporaryPath (c.entryPath digest)) place) (value : α) :
    opening.step c digest value t = (t.put place (.file .empty), writing (some place), none) := by
  unfold step
  simp only [admits.filePlace]

/-- Without its file a save is finished. -/
theorem step_opening_of_error
    (fails : t.filePlace (temporaryPath (c.entryPath digest)) .isADirectory = .error e)
    (value : α) :
    opening.step c digest value t =
      (t, finished (.error (.unwritable (temporaryPath (c.entryPath digest)) e)), none) := by
  unfold step
  simp only [fails]

/-- The bytes go into the file that is open, wherever it is by now.  They go over those that are in
it, because the other save may have written there. -/
theorem step_writing (there : t.node? place = some (.file bytes)) (c : FileCache α)
    (digest : String) (value : α) :
    (writing (some place)).step c digest value t =
      (t.put place (.file (FileTree.overlay (FileCache.content value) bytes)), naming, none) := by
  unfold step FileTree.overwriteAt
  simp only [there, FileCache.content]

/-- A file that was given its name has moved, and whoever has it open moves along. -/
theorem step_naming_of_ok
    (renames : t.rename (temporaryPath (c.entryPath digest)) (c.entryPath digest) = .ok t')
    (value : α) :
    naming.step c digest value t = (t', finished (.ok ()),
      t.move? (temporaryPath (c.entryPath digest)) (c.entryPath digest)) := by
  unfold step
  simp only [renames]

/-- A file that is gone cannot be given a name. -/
theorem step_naming_of_error
    (fails : t.rename (temporaryPath (c.entryPath digest)) (c.entryPath digest) = .error e)
    (value : α) :
    naming.step c digest value t =
      (t, finished (.error (.notRenamed (temporaryPath (c.entryPath digest))
        (c.entryPath digest) e)), none) := by
  unfold step
  simp only [fails]

/-- The file that is given the name of the entry goes there. -/
theorem step_naming (admits : t.Admits (temporaryPath (c.entryPath digest)) place)
    (admits' : t.Admits (c.entryPath digest) place') (there : t.node? place = some (.file bytes))
    (value : α) :
    naming.step c digest value t =
      ((t.erase place).put place' (.file bytes), finished (.ok ()), some (place, place')) := by
  have renames : t.rename (temporaryPath (c.entryPath digest)) (c.entryPath digest) =
      .ok ((t.erase place).put place' (.file bytes)) := by
    simp only [FileTree.rename, admits.find there, admits'.filePlace]
  rw [step_naming_of_ok renames, FileTree.move?, admits.find there, admits'.filePlace]

end SaveStage

namespace SaveRace

variable {α : Type} [Storable α] {c : FileCache α} {digest : String} {value : Side → α}
  {s : SaveRace} {who : Side}

/-- One save takes a step, and the other follows the file that has moved.  This is all that a step
of one does to the other. -/
theorem step_eq {tree : FileTree} {stage : SaveStage} {move : Option (FilePlace × FilePlace)}
    (next : (s.stage who).step c digest (value who) s.tree = (tree, stage, move)) :
    s.step c digest value who =
      ⟨tree, fun side => if side = who then stage else (s.stage side).follow move⟩ := by
  rw [step, next]

/-- A save that has finished does nothing more. -/
theorem step_of_finished {result : Except CacheError Unit}
    (finished : s.stage who = .finished result) : s.step c digest value who = s := by
  have next : (s.stage who).step c digest (value who) s.tree =
      (s.tree, .finished result, none) := by
    rw [finished]
    rfl
  rw [step_eq next]
  obtain ⟨tree, stage⟩ := s
  congr
  funext side
  split
  · rename_i same
    rw [same, ← finished]
  · exact (stage side).follow_none

theorem run_append (turns turns' : List Side) :
    s.run c digest value (turns ++ turns') =
      (s.run c digest value turns).run c digest value turns' :=
  List.foldl_append ..

theorem run_concat (turns : List Side) :
    s.run c digest value (turns ++ [who]) = (s.run c digest value turns).step c digest value who :=
  run_append turns [who]

/-! ### How many steps there are -/

/-- A save that has taken no step has not started. -/
theorem making_of_count (c : FileCache α) (digest : String) (value : Side → α) (t : FileTree)
    {turns : List Side} (none : turns.count who = 0) :
    ((start t).run c digest value turns).stage who = .making := by
  induction turns using List.reverseRecOn with
  | nil => rfl
  | append_singleton turns side ih =>
    rw [List.count_append, List.count_singleton, Nat.add_eq_zero_iff] at none
    obtain ⟨none, other⟩ := none
    have apart : who ≠ side := by
      rintro rfl
      simp at other
    rw [run_concat, step]
    dsimp only
    rw [if_neg apart, ih none]
    rfl

/-- A turn brings the save closer to its end that takes it, and does not throw the other back. -/
theorem rank_step (c : FileCache α) (digest : String) (value : Side → α) (s : SaveRace)
    (who side : Side) :
    ((s.step c digest value side).stage who).rank ≤
      (s.stage who).rank - [side].count who := by
  rw [step]
  dsimp only
  split
  · rename_i same
    rw [same, List.count_singleton_self]
    exact SaveStage.rank_step ..
  · rename_i apart
    have none : [side].count who = 0 := List.count_eq_zero_of_not_mem (by simpa using apart)
    rw [SaveStage.rank_follow, none]
    exact Nat.le_refl _

/-- A save that has taken some steps has so many fewer left. -/
theorem rank_run (c : FileCache α) (digest : String) (value : Side → α) (t : FileTree)
    (turns : List Side) (who : Side) :
    (((start t).run c digest value turns).stage who).rank ≤ 4 - turns.count who := by
  induction turns using List.reverseRecOn with
  | nil => exact Nat.le_refl 4
  | append_singleton turns side ih =>
    have step := rank_step c digest value ((start t).run c digest value turns) who side
    rw [run_concat, List.count_append]
    omega

/-- **A save is finished with its fourth step**, whatever the other does.  It may have failed: its
file can be gone by the time it is to be renamed. -/
theorem finished_of_count (c : FileCache α) (digest : String) (value : Side → α) (t : FileTree)
    {turns : List Side} (four : 4 ≤ turns.count who) :
    ∃ result, ((start t).run c digest value turns).stage who = .finished result := by
  have rank := rank_run c digest value t turns who
  rw [Nat.sub_eq_zero_of_le four, Nat.le_zero] at rank
  exact SaveStage.finished_of_rank rank

/-! ### A save that nobody disturbs -/

/-- Where one of the saves stands, and what is there then. -/
structure StandsAt (s : SaveRace) (who : Side) (tree : FileTree) (stage : SaveStage) : Prop where
  tree : s.tree = tree
  stage : s.stage who = stage

/-- A save that takes a step stands where the step leads. -/
theorem StandsAt.step {tree tree' : FileTree} {stage stage' : SaveStage}
    {move : Option (FilePlace × FilePlace)} (stands : s.StandsAt who tree stage)
    (next : stage.step c digest (value who) tree = (tree', stage', move)) :
    (s.step c digest value who).StandsAt who tree' stage' := by
  rw [← stands.tree, ← stands.stage] at next
  rw [step_eq next]
  exact ⟨rfl, if_pos rfl⟩

theorem StandsAt.idle {tree : FileTree} {result : Except CacheError Unit}
    (stands : s.StandsAt who tree (.finished result)) :
    (s.step c digest value who).StandsAt who tree (.finished result) := by
  rwa [step_of_finished stands.stage]

/-- A save that has a file to write into. -/
theorem StandsAt.opening {tree : FileTree} (stands : s.StandsAt who tree .opening)
    {place : FilePlace}
    (admits : tree.Admits (FileCache.temporaryPath (c.entryPath digest)) place)
    (value : Side → α) :
    ((s.step c digest value who).step c digest value who).StandsAt who
      ((tree.put place (.file .empty)).put place (.file (FileCache.content (value who))))
      .naming := by
  have free := FileTree.isGiven_of_node? admits.noDirectory
  have opened : (s.step c digest value who).StandsAt who (tree.put place (.file .empty))
      (.writing (some place)) := stands.step (SaveStage.step_opening admits (value who))
  have empty : (tree.put place (.file .empty)).node? place = some (.file .empty) := by
    rw [FileTree.node?_put free, if_pos rfl]
  have written := opened.step (SaveStage.step_writing empty c digest (value who))
  rwa [FileTree.overlay_empty] at written

/-- **A save that takes its steps without being disturbed is a save.**  So what is said of the steps
is said of `FileCache.save`, and not of a second account of it. -/
theorem run_alone (c : FileCache α) (digest : String) (value : Side → α) (t : FileTree)
    (who : Side) :
    ((start t).run c digest value [who, who, who, who]).StandsAt who
      (c.save t digest (value who)).1 (.finished (c.save t digest (value who)).2) := by
  have starts : (start t).StandsAt who t .making := ⟨rfl, rfl⟩
  simp only [run, List.foldl_cons, List.foldl_nil]
  rw [FileCache.save, FileCache.saveActions_eq, FileTree.performAll_cons, FileTree.perform]
  -- Each action is taken by a step of the race, and if one fails the steps that are left do
  -- nothing.
  cases made : t.makeDirectories c.dir with
  | mk ready failure =>
    cases failure with
    | some e => exact (starts.step (SaveStage.step_making_of_error made digest _)).idle.idle.idle
    | none =>
      have stands := starts.step (SaveStage.step_making made digest (value who))
      dsimp only [FileCache.preparations, List.cons_append, List.nil_append]
      cases placed :
          ready.filePlace (FileCache.temporaryPath (c.entryPath digest)) .isADirectory with
      | error e =>
        have fails : ready.perform (.truncate (FileCache.temporaryPath (c.entryPath digest))) =
            (ready, some e) := by
          rw [FileTree.perform, FileTree.truncate, placed]
          rfl
        rw [FileTree.performAll_cons, fails]
        exact (stands.step (SaveStage.step_opening_of_error placed _)).idle.idle
      | ok place =>
        have admits := FileTree.filePlace_eq_ok_iff.mp placed
        have stands := stands.opening admits value
        rw [FileTree.performAll_fill admits, FileTree.performAll_cons, FileTree.perform]
        generalize (ready.put place (.file .empty)).put place
          (.file (FileCache.content (value who))) = filled at stands ⊢
        cases renames : filled.rename (FileCache.temporaryPath (c.entryPath digest))
            (c.entryPath digest) with
        | error e => exact stands.step (SaveStage.step_naming_of_error renames _)
        | ok t' => exact stands.step (SaveStage.step_naming_of_ok renames _)

end SaveRace

/-! ## What is raced for -/

/-- **What two saves race for**: an entry that can be written, in a directory that stays what it is
when it is made.  Each of them has a value for it. -/
structure Contest (α : Type) where
  cache : FileCache α
  digest : String
  value : Side → α
  /-- What is there before either of them has started. -/
  before : FileTree
  /-- What is there when the directory was made. -/
  ready : FileTree
  temporary : FilePlace
  entry : FilePlace
  receives : cache.Receives before digest ready temporary entry
  names : cache.Names cache.dir digest
  rooted : before.Rooted
  steady : before.isDirectory cache.dir = true ∨ Path.Descends cache.dir

namespace Contest

variable {α : Type} [Storable α]

/-- Lets one of the saves take its next step. -/
def next (r : Contest α) (s : SaveRace) (who : Side) : SaveRace :=
  s.step r.cache r.digest r.value who

/-- What has become of the saves after turns of steps.  The turns may stop anywhere, and need not be
fair to either of the saves. -/
def after (r : Contest α) (turns : List Side) : SaveRace :=
  (SaveRace.start r.before).run r.cache r.digest r.value turns

variable {r : Contest α} {s : SaveRace} {who side : Side} {u : FileTree} {x y : Option FileNode}
  {bytes : ByteArray}

theorem after_eq (r : Contest α) (turns : List Side) :
    r.after turns = turns.foldl r.next (SaveRace.start r.before) := rfl

theorem after_concat (turns : List Side) : r.after (turns ++ [who]) = r.next (r.after turns) who :=
  SaveRace.run_concat turns

/-! ### Two places -/

omit [Storable α] in
/-- The two files stand at different places, since their names differ. -/
theorem temporary_ne_entry (r : Contest α) : r.temporary ≠ r.entry := by
  intro same
  have last := r.receives.getLast?_temporary r.names.isName
  rw [same, r.receives.getLast?_entry r.names.isName, Option.some.injEq] at last
  exact FileCache.entryName_ne_temporary _ last

/-- What stands at the two places of a race, the directory being made.  No step of a save looks or
writes anywhere else, so that nothing more has to be carried along. -/
structure Shows (r : Contest α) (u : FileTree) (x y : Option FileNode) : Prop where
  same : FileTree.SameDirectories r.ready u
  temporary : u.node? r.temporary = x
  entry : u.node? r.entry = y

omit [Storable α] in
theorem shows_ready (r : Contest α) :
    r.Shows r.ready (r.ready.node? r.temporary) (r.ready.node? r.entry) :=
  ⟨fun _ => Iff.rfl, rfl, rfl⟩

namespace Shows

variable (shows : r.Shows u x y)

include shows

omit [Storable α] in
theorem admits : u.Admits (FileCache.temporaryPath (r.cache.entryPath r.digest)) r.temporary :=
  r.receives.temporary.of_same shows.same

omit [Storable α] in
theorem admits_entry : u.Admits (r.cache.entryPath r.digest) r.entry :=
  r.receives.entry.of_same shows.same

omit [Storable α] in
/-- What is put at one of the two places is not seen at the other. -/
theorem put_temporary (bytes : ByteArray) :
    r.Shows (u.put r.temporary (.file bytes)) (some (.file bytes)) y := by
  have free := FileTree.isGiven_of_node? shows.admits.noDirectory
  refine ⟨shows.same.trans (FileTree.sameDirectories_put bytes shows.admits.noDirectory), ?_, ?_⟩
  · rw [FileTree.node?_put free, if_pos rfl]
  · rw [FileTree.node?_put free, if_neg r.temporary_ne_entry.symm, shows.entry]

omit [Storable α] in
theorem put_entry (bytes : ByteArray) :
    r.Shows (u.put r.entry (.file bytes)) x (some (.file bytes)) := by
  have free := FileTree.isGiven_of_node? shows.admits_entry.noDirectory
  refine ⟨shows.same.trans (FileTree.sameDirectories_put bytes shows.admits_entry.noDirectory),
    ?_, ?_⟩
  · rw [FileTree.node?_put free, if_neg r.temporary_ne_entry, shows.temporary]
  · rw [FileTree.node?_put free, if_pos rfl]

omit [Storable α] in
/-- What is taken away from one is not seen at the other. -/
theorem erase_temporary : r.Shows (u.erase r.temporary) none y := by
  have free := FileTree.isGiven_of_node? shows.admits.noDirectory
  refine ⟨shows.same.trans fun place => ?_, ?_, ?_⟩
  · rw [FileTree.node?_erase free]
    split
    · rename_i same
      simp [same, shows.admits.noDirectory]
    · rfl
  · rw [FileTree.node?_erase free, if_pos rfl]
  · rw [FileTree.node?_erase free, if_neg r.temporary_ne_entry.symm, shows.entry]

end Shows

/-! ### One step -/

/-- What comes of a step: what stands at the two places then, where the save stands that took it,
and what has moved. -/
structure Next (r : Contest α) (s : SaveRace) (who : Side) (x y : Option FileNode)
    (stage : SaveStage) (move : Option (FilePlace × FilePlace)) : Prop where
  shows : r.Shows (r.next s who).tree x y
  own : (r.next s who).stage who = stage
  other : (r.next s who).stage who.other = (s.stage who.other).follow move

/-- What comes of a step is read off the step of the save and the place to which a file has moved.
-/
theorem next_of_step {stage stage' : SaveStage} {move : Option (FilePlace × FilePlace)}
    (stands : s.stage who = stage)
    (next : stage.step r.cache r.digest (r.value who) s.tree = (u, stage', move))
    (shows : r.Shows u x y) : r.Next s who x y stage' move := by
  rw [← stands] at next
  have goes := SaveRace.step_eq next
  refine ⟨?_, ?_, ?_⟩
  · rwa [Contest.next, goes]
  · rw [Contest.next, goes]
    exact if_pos rfl
  · rw [Contest.next, goes]
    exact if_neg (Side.other_ne who)

section Steps

variable (shows : r.Shows s.tree x y)

include shows

/-- The directory is there by now. -/
theorem next_making (stands : s.stage who = .making) : r.Next s who x y .opening none :=
  next_of_step stands
    (SaveStage.step_making (FileTree.makeDirectories_of_made r.receives.made shows.same) ..) shows

/-- A save that opens the temporary file empties it, also if the other has written into it. -/
theorem next_opening (stands : s.stage who = .opening) :
    r.Next s who (some (.file .empty)) y (.writing (some r.temporary)) none :=
  next_of_step stands (SaveStage.step_opening shows.admits _) (shows.put_temporary .empty)

/-- Bytes go into the temporary file as long as it is there. -/
theorem next_writing (stands : s.stage who = .writing (some r.temporary))
    (there : x = some (.file bytes)) :
    r.Next s who (some (.file (FileTree.overlay (FileCache.content (r.value who)) bytes))) y
      .naming none :=
  next_of_step stands (SaveStage.step_writing (shows.temporary.trans there) ..)
    (shows.put_temporary _)

/-- Bytes go where the file has gone. -/
theorem next_writing_entry (stands : s.stage who = .writing (some r.entry))
    (there : y = some (.file bytes)) :
    r.Next s who x (some (.file (FileTree.overlay (FileCache.content (r.value who)) bytes)))
      .naming none :=
  next_of_step stands (SaveStage.step_writing (shows.entry.trans there) ..) (shows.put_entry _)

/-- The first of the saves to come to this gives the temporary file its name, whatever is in it and
whoever has written it. -/
theorem next_naming (stands : s.stage who = .naming) (there : x = some (.file bytes)) :
    r.Next s who none (some (.file bytes)) (.finished (.ok ()))
      (some (r.temporary, r.entry)) :=
  next_of_step stands
    (SaveStage.step_naming shows.admits shows.admits_entry (shows.temporary.trans there) _)
    (shows.erase_temporary.put_entry bytes)

end Steps

/-- What a save comes to that finds its file gone.  The other one has renamed it, which is the one
failure that a race adds to those of a save alone. -/
def lost (r : Contest α) : CacheError :=
  .notRenamed (FileCache.temporaryPath (r.cache.entryPath r.digest)) (r.cache.entryPath r.digest)
    .notFound

/-- The second one finds nothing to give a name to, and has failed. -/
theorem next_naming_of_none (shows : r.Shows s.tree none y) (stands : s.stage who = .naming) :
    r.Next s who none y (.finished (.error r.lost)) none := by
  refine next_of_step stands (SaveStage.step_naming_of_error ?_ _) shows
  rw [FileTree.rename, shows.admits.find_none shows.temporary]

end Contest

end Decipher
