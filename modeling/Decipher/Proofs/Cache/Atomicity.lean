import Decipher.Proofs.Cache.Race
import Mathlib.Data.List.Induction
import Mathlib.Data.List.Infix

/-!
# What becomes of two saves

Two saves to one entry share the temporary file beside it.  As long as they do not have it in hand
at the same time, they look like two that are made one after the other: what is loaded meanwhile
was there before or is one of the values, and both succeed.  Once both have it in hand, neither is
safe: the first one to give the file its name gives it whatever is in it, and the other writes into
an entry that can be read, and then finds its file gone.

* `Contest.Peaceful`, `Contest.Clashed`: how far the saves can have come, and what the two files
  hold then.
* `Contest.course`: one of the two is the case, depending on whether they have collided.
* `Contest.atomic_or_torn`: what comes of that.

## Two invariants and the moment between them

The states of a race fall into two kinds.  In peace one of the saves is idle, which means that it
has no file open; then the other is alone with the temporary file, and what it writes there is what
the entry will hold.  After a collision both have opened the file, and neither knows of the other.
The constructors of `Contest.Peaceful` and `Contest.Clashed` are the stages that two saves can be
in, up to who is who, with what the two files hold then; there are few of them because the stages
of a finished save are told apart only by its result.

A step in peace leads to peace or to a collision (`Peaceful.next`), and a step after a collision
leads to a state after a collision (`Clashed.next`).  The induction over all turns goes by the last
turn, so that it can tell whether the collision was there before (`Contest.course`).  It says more
than that one of the two invariants holds: which one it is depends on whether there was a moment at
which both had the file in hand.

Atomicity fails after every collision, and not only after some, since one of the two saves cannot
succeed any more.  That something is loaded which nobody saved depends on what the values are, and
on who writes last.
-/

namespace Decipher

/-- What holds of both saves is shown of one of them and of the other. -/
theorem Side.forall_of {P : Side → Prop} (who : Side) (own : P who) (other : P who.other)
    (side : Side) : P side := by
  obtain rfl | rfl := Side.eq_or_eq_other who side
  · exact own
  · exact other

namespace SaveStage

/-- That a save has not opened its file, or is done with it. -/
inductive Idle : SaveStage → Prop
  | making : Idle making
  | opening : Idle opening
  | saved : Idle (finished (.ok ()))

/-- That a save has its file in hand: it has opened it, and not given it its name. -/
def Holds : SaveStage → Prop
  | writing _ => True
  | naming => True
  | _ => False

/-- An idle save has nothing in hand. -/
theorem Idle.not_holds {stage : SaveStage} (idle : stage.Idle) : ¬ stage.Holds := by
  cases idle <;> exact id

theorem Idle.result {result : Except CacheError Unit} (idle : (finished result).Idle) :
    result = .ok () := by
  cases idle
  rfl

/-- What has no file open does not follow one. -/
theorem Idle.follow {stage : SaveStage} (idle : stage.Idle)
    (move : Option (FilePlace × FilePlace)) : stage.follow move = stage := by
  cases idle <;> rfl

end SaveStage

/-- That both saves have the temporary file in hand.  What the entry comes to hold is then no longer
up to one of them. -/
def SaveRace.Collides (s : SaveRace) : Prop := ∀ side, (s.stage side).Holds

namespace Contest

variable {α : Type} [Storable α] {r : Contest α} {s : SaveRace} {who side : Side}
  {x y : Option FileNode} {bytes : ByteArray}

/-! ## How far saves can have come -/

/-- That the entry is what it was before, or holds one of the values; the latter if a save has
succeeded. -/
inductive Whole (r : Contest α) (s : SaveRace) (y : Option FileNode) : Prop
  | prior (same : y = r.ready.node? r.entry) (none : ∀ side, s.stage side ≠ .finished (.ok ()))
  | saved (side : Side) (holds : y = some (.file (FileCache.content (r.value side))))

/-- What can be in a file that both saves write into: nothing, one of the values, or the bytes of
one over those of the other. -/
inductive Mixed (r : Contest α) : ByteArray → Prop
  | nothing : Mixed r .empty
  | value (side : Side) : Mixed r (FileCache.content (r.value side))
  | both (side : Side) : Mixed r (FileTree.overlay (FileCache.content (r.value side))
      (FileCache.content (r.value side.other)))

/-- What can be in it as long as one of them has not written. -/
inductive Fresh (r : Contest α) (who : Side) : ByteArray → Prop
  | nothing : Fresh r who .empty
  | other : Fresh r who (FileCache.content (r.value who.other))

/-- **How far two saves can have come that have not collided.**  At any moment at most one of them
has the temporary file in hand, so that the file holds what that one has put there and nothing else,
and the entry is whole throughout. -/
inductive Peaceful (r : Contest α) (s : SaveRace) : Prop
  | untouched (tree : s.tree = r.before) (stage : ∀ side, s.stage side = .making)
  | apart (x y : Option FileNode) (shows : r.Shows s.tree x y) (whole : r.Whole s y)
    (idle : ∀ side, (s.stage side).Idle)
  | opened (who : Side) (y : Option FileNode) (shows : r.Shows s.tree (some (.file .empty)) y)
    (whole : r.Whole s y) (own : s.stage who = .writing (some r.temporary))
    (other : (s.stage who.other).Idle)
  | written (who : Side) (y : Option FileNode)
    (shows : r.Shows s.tree (some (.file (FileCache.content (r.value who)))) y)
    (whole : r.Whole s y) (own : s.stage who = .naming) (other : (s.stage who.other).Idle)

/-- **How far two saves can have come that have collided.**  They share the temporary file from then
on.  Whichever renames it first has made the entry of it; the other one may still write into the
entry, and finds nothing to rename in the end. -/
inductive Clashed (r : Contest α) (s : SaveRace) : Prop
  | opened (y : Option FileNode) (shows : r.Shows s.tree (some (.file .empty)) y)
    (whole : r.Whole s y) (stage : ∀ side, s.stage side = .writing (some r.temporary))
  | half (who : Side) (bytes : ByteArray) (y : Option FileNode)
    (shows : r.Shows s.tree (some (.file bytes)) y) (whole : r.Whole s y)
    (fresh : r.Fresh who bytes) (own : s.stage who = .writing (some r.temporary))
    (other : s.stage who.other = .naming)
  | full (bytes : ByteArray) (y : Option FileNode)
    (shows : r.Shows s.tree (some (.file bytes)) y) (whole : r.Whole s y)
    (mixed : r.Mixed bytes) (stage : ∀ side, s.stage side = .naming)
  | adrift (who : Side) (bytes : ByteArray) (shows : r.Shows s.tree none (some (.file bytes)))
    (fresh : r.Fresh who bytes) (own : s.stage who = .writing (some r.entry))
    (other : s.stage who.other = .finished (.ok ()))
  | late (who : Side) (bytes : ByteArray) (shows : r.Shows s.tree none (some (.file bytes)))
    (mixed : r.Mixed bytes) (own : s.stage who = .naming)
    (other : s.stage who.other = .finished (.ok ()))
  | lost (who : Side) (bytes : ByteArray) (shows : r.Shows s.tree none (some (.file bytes)))
    (mixed : r.Mixed bytes) (own : s.stage who = .finished (.error r.lost))
    (other : s.stage who.other = .finished (.ok ()))

theorem Fresh.mixed (fresh : r.Fresh who bytes) : r.Mixed bytes := by
  cases fresh with
  | nothing => exact .nothing
  | other => exact .value who.other

/-- The bytes of a save over those that were there when it had not written. -/
theorem Fresh.overlay (fresh : r.Fresh who bytes) :
    r.Mixed (FileTree.overlay (FileCache.content (r.value who)) bytes) := by
  cases fresh with
  | nothing =>
    rw [FileTree.overlay_empty]
    exact .value who
  | other => exact .both who

/-! ## Steps of saves that have not collided -/

theorem Next.other_none {stage : SaveStage} (next : r.Next s who x y stage none) :
    (r.next s who).stage who.other = s.stage who.other :=
  next.other.trans (SaveStage.follow_none _)

/-- What a step of the other leaves of a save. -/
theorem Next.followed {stage : SaveStage} {move : Option (FilePlace × FilePlace)}
    (next : r.Next s who.other x y stage move) :
    (r.next s who.other).stage who = (s.stage who).follow move := by
  have followed := next.other
  rwa [Side.other_other] at followed

theorem Next.kept {stage : SaveStage} (next : r.Next s who.other x y stage none) :
    (r.next s who.other).stage who = s.stage who :=
  next.followed.trans (SaveStage.follow_none _)

/-- An entry stays whole as long as no save is finished by the step. -/
theorem Next.whole {y' : Option FileNode} {stage : SaveStage} (next : r.Next s who x y' stage none)
    (whole : r.Whole s y) (going : stage ≠ .finished (.ok ())) : r.Whole (r.next s who) y := by
  cases whole with
  | prior same none =>
    refine .prior same (Side.forall_of who ?_ ?_)
    · rwa [next.own]
    · rw [next.other_none]
      exact none who.other
  | saved side holds => exact .saved side holds

theorem next_of_finished {result : Except CacheError Unit}
    (finished : s.stage who = .finished result) : r.next s who = s :=
  SaveRace.step_of_finished finished

/-- An idle save opens its file or changes nothing at the two places.  Opening the file is its only
way to get between the other one and the entry. -/
theorem next_of_idle (shows : r.Shows s.tree x y) (idle : (s.stage who).Idle) :
    r.next s who = s ∨ r.Next s who x y .opening none ∨
      s.stage who = .opening ∧
        r.Next s who (some (.file .empty)) y (.writing (some r.temporary)) none := by
  cases stands : s.stage who with
  | making => exact .inr (.inl (next_making shows stands))
  | opening => exact .inr (.inr ⟨rfl, next_opening shows stands⟩)
  | finished result => exact .inl (next_of_finished stands)
  | _ =>
    rw [stands] at idle
    cases idle

/-- As long as there is peace one of the saves is idle, and to collide takes two that have the file
in hand. -/
theorem Peaceful.not_collides (peaceful : r.Peaceful s) : ¬ s.Collides := by
  intro collides
  cases peaceful with
  | untouched tree stage =>
    have holds := collides .left
    rw [stage] at holds
    exact holds
  | apart x y shows whole idle => exact (idle .left).not_holds (collides .left)
  | opened who y shows whole own other => exact other.not_holds (collides who.other)
  | written who y shows whole own other => exact other.not_holds (collides who.other)

/-- The first step of all makes the directory. -/
theorem next_untouched (tree : s.tree = r.before) (stage : ∀ side, s.stage side = .making)
    (who : Side) :
    r.Next s who (r.ready.node? r.temporary) (r.ready.node? r.entry) .opening none := by
  refine next_of_step (stage who) ?_ r.shows_ready
  rw [tree]
  exact SaveStage.step_making r.receives.made ..

/-- How two saves can stand when one of them has taken a step in peace: the peace lasts, or both
have the temporary file in hand now. -/
def Proceeds (r : Contest α) (s : SaveRace) : Prop := r.Peaceful s ∨ r.Clashed s ∧ s.Collides

/-- The first step makes the directory, and nothing is opened yet. -/
theorem proceeds_of_untouched (tree : s.tree = r.before) (stage : ∀ side, s.stage side = .making)
    (side : Side) : r.Proceeds (r.next s side) := by
  have next := next_untouched tree stage side
  refine .inl (.apart _ _ next.shows ?_ (Side.forall_of side ?_ ?_))
  · refine next.whole (.prior rfl fun other => ?_) nofun
    rw [stage]
    nofun
  · rw [next.own]
    exact .opening
  · rw [next.other_none, stage]
    exact .making

/-- Of two idle saves one may open its file, which is the only way to have it in hand. -/
theorem proceeds_of_apart (shows : r.Shows s.tree x y) (whole : r.Whole s y)
    (idle : ∀ side, (s.stage side).Idle) (side : Side) : r.Proceeds (r.next s side) := by
  obtain same | next | ⟨-, next⟩ := next_of_idle shows (idle side)
  · rw [same]
    exact .inl (.apart x y shows whole idle)
  · refine .inl (.apart x y next.shows (next.whole whole nofun) (Side.forall_of side ?_ ?_))
    · rw [next.own]
      exact .opening
    · rw [next.other_none]
      exact idle side.other
  · refine .inl (.opened side y next.shows (next.whole whole nofun) next.own ?_)
    rw [next.other_none]
    exact idle side.other

/-- A save that has opened its file writes into it, unless the other opens it first. -/
theorem proceeds_of_opened (shows : r.Shows s.tree (some (.file .empty)) y) (whole : r.Whole s y)
    (own : s.stage who = .writing (some r.temporary)) (other : (s.stage who.other).Idle)
    (side : Side) : r.Proceeds (r.next s side) := by
  obtain rfl | rfl := Side.eq_or_eq_other who side
  · have next := next_writing shows own rfl
    rw [FileTree.overlay_empty] at next
    refine .inl (.written side y next.shows (next.whole whole nofun) next.own ?_)
    rwa [next.other_none]
  · obtain same | next | ⟨-, next⟩ := next_of_idle shows other
    · rw [same]
      exact .inl (.opened who y shows whole own other)
    · refine .inl (.opened who y next.shows (next.whole whole nofun) (next.kept.trans own) ?_)
      rw [next.own]
      exact .opening
    · -- The file is opened a second time.
      have stage := Side.forall_of (P := fun side => (r.next s who.other).stage side = _)
        who (next.kept.trans own) next.own
      refine .inr ⟨.opened y next.shows (next.whole whole nofun) stage, fun side => ?_⟩
      rw [stage]
      trivial

/-- A save that has written gives its file the name of the entry, and is idle again. -/
theorem proceeds_of_written
    (shows : r.Shows s.tree (some (.file (FileCache.content (r.value who)))) y)
    (whole : r.Whole s y) (own : s.stage who = .naming) (other : (s.stage who.other).Idle)
    (side : Side) : r.Proceeds (r.next s side) := by
  -- The save that has written can only give the file its name, and the other has no file in hand.
  obtain rfl | rfl := Side.eq_or_eq_other who side
  · have next := next_naming shows own rfl
    refine .inl (.apart _ _ next.shows (.saved side rfl) (Side.forall_of side ?_ ?_))
    · rw [next.own]
      exact .saved
    · rwa [next.other, other.follow]
  · obtain same | next | ⟨-, next⟩ := next_of_idle shows other
    · rw [same]
      exact .inl (.written who y shows whole own other)
    · refine .inl (.written who y next.shows (next.whole whole nofun) (next.kept.trans own) ?_)
      rw [next.own]
      exact .opening
    · -- The file is opened a second time, and what it holds is lost.
      refine .inr
        ⟨.half who.other .empty y next.shows (next.whole whole nofun) .nothing next.own ?_,
          Side.forall_of who ?_ ?_⟩
      · rw [Side.other_other, next.kept, own]
      · rw [next.kept, own]
        trivial
      · rw [next.own]
        trivial

/-- **A step leaves the peace or ends it in a collision.**  There are four ways to be at peace, and
a collision comes of the two in which one of the saves has the file in hand. -/
theorem Peaceful.next (peaceful : r.Peaceful s) (side : Side) :
    r.Peaceful (r.next s side) ∨ r.Clashed (r.next s side) ∧ (r.next s side).Collides := by
  cases peaceful with
  | untouched tree stage => exact proceeds_of_untouched tree stage side
  | apart x y shows whole idle => exact proceeds_of_apart shows whole idle side
  | opened who y shows whole own other => exact proceeds_of_opened shows whole own other side
  | written who y shows whole own other => exact proceeds_of_written shows whole own other side

/-! ## Steps of saves that have collided -/

/-- **Saves that have collided stay so.**  The cases are in the order in which they come about: both
open the file, one writes, the other writes, one gives the file its name, the other writes or not,
and the other fails. -/
theorem Clashed.next (clashed : r.Clashed s) (side : Side) : r.Clashed (r.next s side) := by
  cases clashed with
  | opened y shows whole stage =>
    have next := next_writing shows (stage side) rfl
    rw [FileTree.overlay_empty] at next
    refine .half side.other _ y next.shows (next.whole whole nofun) ?_ ?_ ?_
    · have fresh : r.Fresh side.other (FileCache.content (r.value side.other.other)) := .other
      rwa [Side.other_other] at fresh
    · rw [next.other_none, stage]
    · rw [Side.other_other, next.own]
  | half who bytes y shows whole fresh own other =>
    obtain rfl | rfl := Side.eq_or_eq_other who side
    · have next := next_writing shows own rfl
      refine .full _ y next.shows (next.whole whole nofun) fresh.overlay
        (Side.forall_of side next.own ?_)
      rw [next.other_none, other]
    · -- The file is given its name under the hands of the other, whose bytes will go there.
      have next := next_naming shows other rfl
      refine .adrift who bytes next.shows fresh (next.followed.trans ?_) next.own
      simp [own, SaveStage.follow]
  | full bytes y shows whole mixed stage =>
    have next := next_naming shows (stage side) rfl
    refine .late side.other bytes next.shows mixed ?_ ?_
    · rw [next.other, stage]
      rfl
    · rw [Side.other_other, next.own]
  | adrift who bytes shows fresh own other =>
    -- The temporary path is free by now, but the other still writes to the file that was there.
    obtain rfl | rfl := Side.eq_or_eq_other who side
    · have next := next_writing_entry shows own rfl
      refine .late side _ next.shows fresh.overlay next.own ?_
      rw [next.other_none, other]
    · rw [next_of_finished other]
      exact .adrift who bytes shows fresh own other
  | late who bytes shows mixed own other =>
    obtain rfl | rfl := Side.eq_or_eq_other who side
    · -- Nothing stands at the temporary path, so giving it a name fails.
      have next := next_naming_of_none shows own
      refine .lost side bytes next.shows mixed next.own ?_
      rw [next.other_none, other]
    · rw [next_of_finished other]
      exact .late who bytes shows mixed own other
  | lost who bytes shows mixed own other =>
    have same : r.next s side = s := by
      obtain rfl | rfl := Side.eq_or_eq_other who side
      · exact next_of_finished own
      · exact next_of_finished other
    rw [same]
    exact .lost who bytes shows mixed own other

/-! ## All steps -/

/-- That both saves have had the temporary file in hand at one moment.  It is a property of the
turns and of nothing that can be read off the files afterwards. -/
def Collided (r : Contest α) (turns : List Side) : Prop :=
  ∃ before, before <+: turns ∧ (r.after before).Collides

/-- **The course of a race.**  There is peace until both saves have the file in hand at one moment,
and from that moment on they clash, whatever steps are taken. -/
theorem course (r : Contest α) (turns : List Side) :
    ¬ r.Collided turns ∧ r.Peaceful (r.after turns) ∨
      r.Collided turns ∧ r.Clashed (r.after turns) := by
  induction turns using List.reverseRecOn with
  | nil =>
    have untouched : r.Peaceful (r.after []) := .untouched rfl fun _ => rfl
    refine .inl ⟨?_, untouched⟩
    rintro ⟨before, among, collides⟩
    rw [List.prefix_nil.mp among] at collides
    exact untouched.not_collides collides
  | append_singleton turns side ih =>
    rw [after_concat]
    obtain ⟨apart, peaceful⟩ | ⟨⟨before, among, collides⟩, clashed⟩ := ih
    · obtain peaceful' | ⟨clashed, collides⟩ := peaceful.next side
      · refine .inl ⟨?_, peaceful'⟩
        rintro ⟨before, among, collides⟩
        -- A collision would be in the step just made, or one of the steps before.
        obtain rfl | among := List.prefix_concat_iff.mp among
        · rw [after_concat] at collides
          exact peaceful'.not_collides collides
        · exact apart ⟨before, among, collides⟩
      · refine .inr ⟨⟨turns ++ [side], List.prefix_refl _, ?_⟩, clashed⟩
        rwa [after_concat]
    · exact .inr ⟨⟨before, among.trans (List.prefix_append _ _), collides⟩, clashed.next side⟩

/-- Saves do not collide if one of them has not started as long as the other is not finished. -/
theorem not_collided {turns : List Side} (who : Side)
    (inTurn : ∀ before, before <+: turns → 4 ≤ before.count who ∨ before.count who.other = 0) :
    ¬ r.Collided turns := by
  rintro ⟨before, among, collides⟩
  obtain four | none := inTurn before among
  · obtain ⟨result, finished⟩ :=
      SaveRace.finished_of_count r.cache r.digest r.value r.before four
    have holds := collides who
    rw [after, finished] at holds
    exact holds
  · have holds := collides who.other
    rw [after, SaveRace.making_of_count _ _ _ _ none] at holds
    exact holds

/-! ## What is loaded -/

/-- Making the directory changes nothing that is loaded. -/
theorem load_ready (r : Contest α) :
    r.cache.load r.ready r.digest = r.cache.load r.before r.digest :=
  r.receives.sameEntries r.rooted r.steady α r.cache r.digest r.names

theorem Shows.load_prior {u : FileTree} (shows : r.Shows u x y)
    (same : y = r.ready.node? r.entry) :
    r.cache.load u r.digest = r.cache.load r.before r.digest := by
  rw [← r.load_ready]
  apply FileCache.load_congr
  simp only [FileTree.find, shows.admits_entry.led, r.receives.entry.led,
    shows.entry.trans same]

theorem Shows.load_bytes {u : FileTree} (shows : r.Shows u x y) (there : y = some (.file bytes)) :
    r.cache.load u r.digest = r.cache.readingBytes r.digest bytes :=
  FileCache.load_of_bytes shows.admits_entry (shows.entry.trans there)

/-- What is loaded from an entry that is whole. -/
theorem Whole.load (whole : r.Whole s y) (shows : r.Shows s.tree x y) :
    r.cache.load s.tree r.digest = r.cache.load r.before r.digest ∨
      ∃ side, r.cache.load s.tree r.digest =
        r.cache.reading r.digest (Storable.toText (r.value side)) := by
  cases whole with
  | prior same none => exact .inl (shows.load_prior same)
  | saved side holds =>
    refine .inr ⟨side, ?_⟩
    rw [shows.load_bytes holds, FileCache.readingBytes_content]

/-! ## What comes of a race -/

/-- **That two saves look like two that are made one after the other.**  What is loaded is what was
there before or one of the values, and the latter once both saves are finished; no save fails. -/
structure Atomic (r : Contest α) (s : SaveRace) : Prop where
  loads : r.cache.load s.tree r.digest = r.cache.load r.before r.digest ∨
    ∃ side, r.cache.load s.tree r.digest =
      r.cache.reading r.digest (Storable.toText (r.value side))
  succeeds : ∀ side result, s.stage side = .finished result → result = .ok ()
  keeps : (∀ side, ∃ result, s.stage side = .finished result) →
    ∃ side, r.cache.load s.tree r.digest =
      r.cache.reading r.digest (Storable.toText (r.value side))

/-- **What two saves come to that have collided.**  What is loaded is what was there before, or
whatever is in the file that both wrote into; once both saves are finished, one of them has failed
because its file was gone. -/
structure Torn (r : Contest α) (s : SaveRace) : Prop where
  loads : r.cache.load s.tree r.digest = r.cache.load r.before r.digest ∨
    ∃ bytes, r.Mixed bytes ∧ r.cache.load s.tree r.digest = r.cache.readingBytes r.digest bytes
  fails : (∀ side, ∃ result, s.stage side = .finished result) →
    ∃ side, s.stage side = .finished (.error r.lost) ∧ s.stage side.other = .finished (.ok ())

/-- As long as one of the saves has not come to its end, and the other is not in its way. -/
theorem Whole.atomic (whole : r.Whole s y) (shows : r.Shows s.tree x y)
    (going : ∀ result, s.stage who ≠ .finished result) (idle : (s.stage who.other).Idle) :
    r.Atomic s := by
  refine ⟨whole.load shows, Side.forall_of who ?_ ?_, fun all => ?_⟩
  · exact fun result finished => absurd finished (going result)
  · exact fun result finished => SaveStage.Idle.result (finished ▸ idle)
  · obtain ⟨result, finished⟩ := all who
    exact absurd finished (going result)

theorem Peaceful.atomic (peaceful : r.Peaceful s) : r.Atomic s := by
  cases peaceful with
  | untouched tree stage =>
    refine ⟨.inl (by rw [tree]), fun side result finished => ?_, fun all => ?_⟩
    · rw [stage] at finished
      cases finished
    · obtain ⟨result, finished⟩ := all .left
      rw [stage] at finished
      cases finished
  | apart x y shows whole idle =>
    refine ⟨whole.load shows, fun side result finished => ?_, fun all => ?_⟩
    · exact SaveStage.Idle.result (finished ▸ idle side)
    · obtain ⟨result, finished⟩ := all .left
      obtain rfl := SaveStage.Idle.result (finished ▸ idle .left)
      -- Both saves have ended, so one of them at least has put its value there.
      cases whole with
      | prior same none => exact absurd finished (none .left)
      | saved side holds =>
        refine ⟨side, ?_⟩
        rw [shows.load_bytes holds, FileCache.readingBytes_content]
  | opened who y shows whole own other => exact whole.atomic shows (by rw [own]; nofun) other
  | written who y shows whole own other => exact whole.atomic shows (by rw [own]; nofun) other

/-- An entry that is whole holds nothing but what can be in the file of both. -/
theorem Whole.load_mixed (whole : r.Whole s y) (shows : r.Shows s.tree x y) :
    r.cache.load s.tree r.digest = r.cache.load r.before r.digest ∨
      ∃ bytes, r.Mixed bytes ∧
        r.cache.load s.tree r.digest = r.cache.readingBytes r.digest bytes := by
  refine (whole.load shows).imp_right ?_
  rintro ⟨side, loads⟩
  exact ⟨_, .value side, by rw [loads, FileCache.readingBytes_content]⟩

/-- **Saves that have collided are torn.**  An entry that is still whole may be loaded for some
time; but one of the two saves fails in the end. -/
theorem Clashed.torn (clashed : r.Clashed s) : r.Torn s := by
  -- Unless both saves are finished, only what is loaded is at stake.
  have going (who : Side) (going : ∀ result, s.stage who ≠ .finished result)
      (all : ∀ side, ∃ result, s.stage side = .finished result) :
      ∃ side, s.stage side = .finished (.error r.lost) ∧
        s.stage side.other = .finished (.ok ()) := by
    obtain ⟨result, finished⟩ := all who
    exact absurd finished (going result)
  cases clashed with
  | opened y shows whole stage =>
    refine ⟨whole.load_mixed shows, going .left ?_⟩
    rw [stage]
    nofun
  | half who bytes y shows whole fresh own other =>
    refine ⟨whole.load_mixed shows, going who ?_⟩
    rw [own]
    nofun
  | full bytes y shows whole mixed stage =>
    refine ⟨whole.load_mixed shows, going .left ?_⟩
    rw [stage]
    nofun
  | adrift who bytes shows fresh own other =>
    refine ⟨.inr ⟨bytes, fresh.mixed, shows.load_bytes rfl⟩, going who ?_⟩
    rw [own]
    nofun
  | late who bytes shows mixed own other =>
    refine ⟨.inr ⟨bytes, mixed, shows.load_bytes rfl⟩, going who ?_⟩
    rw [own]
    nofun
  | lost who bytes shows mixed own other =>
    exact ⟨.inr ⟨bytes, mixed, shows.load_bytes rfl⟩, fun _ => ⟨who, own, other⟩⟩

/-- **Two saves to one entry are atomic just as long as they do not collide.**  Whatever turns they
take: if they have never both had the temporary file in hand, they look like two that are made one
after the other.  If they have, the entry can hold what neither of them has saved, and one of them
fails. -/
theorem atomic_or_torn (r : Contest α) (turns : List Side) :
    (¬ r.Collided turns → r.Atomic (r.after turns)) ∧
      (r.Collided turns → r.Torn (r.after turns)) ∧
      ((∀ side, ∃ result, (r.after turns).stage side = .finished result) →
        (r.Atomic (r.after turns) ↔ ¬ r.Collided turns)) := by
  obtain ⟨apart, peaceful⟩ | ⟨collided, clashed⟩ := r.course turns
  · exact ⟨fun _ => peaceful.atomic, fun collided => absurd collided apart,
      fun _ => iff_of_true peaceful.atomic apart⟩
  · refine ⟨fun apart => absurd collided apart, fun _ => clashed.torn, fun all => ?_⟩
    refine iff_of_false (fun atomic => ?_) fun apart => apart collided
    obtain ⟨side, failed, -⟩ := clashed.torn.fails all
    cases atomic.succeeds side _ failed

/-- **Every race can go wrong.**  One save opens the temporary file, the other one comes and goes,
and the first one writes on: into the entry, over what the other has saved.  Then its file is
gone. -/
theorem overtaken (r : Contest α) (who : Side) :
    ∃ turns, r.cache.load (r.after turns).tree r.digest =
        r.cache.readingBytes r.digest (FileTree.overlay (FileCache.content (r.value who))
          (FileCache.content (r.value who.other))) ∧
      (r.after (turns ++ [who])).stage who = .finished (.error r.lost) := by
  have made : r.Next (SaveRace.start r.before) who _ _ .opening none :=
    next_untouched rfl (fun _ => rfl) who
  have opened := next_opening made.shows made.own
  -- The other save takes all of its steps.
  have making := opened.other_none.trans made.other_none
  have made' := next_making opened.shows making
  have opened' := next_opening made'.shows made'.own
  have written' := next_writing opened'.shows opened'.own rfl
  have named' := next_naming written'.shows written'.own rfl
  rw [FileTree.overlay_empty] at named'
  -- Then the first one goes on.
  have stands := written'.kept.trans (opened'.kept.trans (made'.kept.trans opened.own))
  have adrift := named'.followed
  rw [stands] at adrift
  have written := next_writing_entry named'.shows (adrift.trans (by simp [SaveStage.follow])) rfl
  have lost := next_naming_of_none written.shows written.own
  refine ⟨[who, who, who.other, who.other, who.other, who.other, who], ?_⟩
  simp only [after_eq, List.cons_append, List.nil_append, List.foldl_cons, List.foldl_nil]
  exact ⟨written.shows.load_bytes rfl, lost.own⟩

/-! ### Two texts -/

/-- A long text and a short one, saved over an entry.  Their lengths differ so that the shorter one,
written over the longer one, leaves the end of it behind. -/
def overOld : Contest String where
  cache := FileCache.inCache
  digest := "k"
  value
    | .left => "first"
    | .right => "2"
  before := FileCache.stocked
  ready := FileCache.stocked
  temporary := ["cache", "k.s.json.tmp"]
  entry := ["cache", "k.s.json"]
  receives := FileCache.keeps_stocked.receives
  names := FileCache.names_inCache
  rooted := FileCache.rooted_stocked
  steady := .inl rfl

/-- One save after the other. -/
def inTurn : List Side := List.replicate 4 .left ++ List.replicate 4 .right

/-- One save after the other is no collision, and both succeed. -/
theorem overOld_inTurn : ¬ overOld.Collided inTurn ∧ overOld.Atomic (overOld.after inTurn) ∧
    ∀ side, (overOld.after inTurn).stage side = .finished (.ok ()) := by
  have apart : ¬ overOld.Collided inTurn := by
    refine not_collided .left fun before among => ?_
    have each : ∀ before ∈ inTurn.inits,
        4 ≤ before.count .left ∨ before.count Side.left.other = 0 := by decide
    exact each before ((List.mem_inits _ _).mpr among)
  have atomic := (atomic_or_torn overOld inTurn).1 apart
  refine ⟨apart, atomic, fun side => ?_⟩
  have four : 4 ≤ inTurn.count side := by cases side <;> decide
  obtain ⟨result, finished⟩ := SaveRace.finished_of_count overOld.cache overOld.digest
    overOld.value overOld.before four
  have succeeded := atomic.succeeds side result finished
  rw [succeeded] at finished
  exact finished

/-- The short text over the long one is no text of a value. -/
theorem not_atomic : ¬ ∀ (r : Contest String) (turns : List Side), r.Atomic (r.after turns) := by
  intro all
  obtain ⟨turns, loads, -⟩ := overOld.overtaken .right
  have torn : overOld.cache.readingBytes overOld.digest (FileTree.overlay
      (FileCache.content (overOld.value .right)) (FileCache.content (overOld.value .left))) =
        .error (.invalid "cache/k.s.json" "trailing characters at line 1 column 4") := rfl
  have prior : overOld.cache.load overOld.before overOld.digest = .ok (some "old") :=
    FileCache.load_old rfl rfl rfl
  rw [Side.other, torn] at loads
  obtain same | ⟨side, same⟩ := (all overOld turns).loads
  · rw [loads, prior] at same
    cases same
  · rw [loads, FileCache.reading, Storable.ofText_toText_eq_ok] at same
    cases same

end Contest

end Decipher
