import Decipher.Proofs.Cache.File
import Decipher.Proofs.Files.Descent

/-!
# Saves that stop

A save can stop before its end: one of its steps fails, or the program ends between two steps or
in the middle of one.  What it leaves behind then are directories, and a temporary file with some
of the bytes, none of which is an entry.  So whatever is loaded from the directory is what was
loaded before; and a save that succeeds changes what its own entry holds and nothing else.

All this is so for a directory that is there, and for one whose path has no step upward.  Making
the directory `cache/new/..` makes no directory for entries, but opens a way to those in `cache`
(`not_sameEntries`).

It is said of file systems without links, as a `FileTree` is one.  A temporary path that is a link
to another entry would be written through, and a save that stops would leave that entry torn.

* `FileCache.Leaves`: what a save leaves that stops.
* `SameEntries`: that the same is loaded from two trees.
* `FileCache.save_contained`: what saves change.

## What can be left, and why it does not show

A step is taken as a whole or not at all, with two exceptions that operating systems make:
directories are made one by one, and bytes are written in parts.  `FileCache.Begun` has a case for
each of the states between, the parts of the bytes among them.  That the file gets its name is one
step, and the last; before it no entry has been touched, and after it the save is done.

What is left are differences of two kinds.  Directories are made on the way to the one of the cache
(`sameEntries_made`), and here it matters where the way leads.  Files differ in the temporary one
only (`FileTree.DifferIn`), which is no entry because of its name.  Nothing takes the directories
or the temporary file away again; the next save of the same entry writes over it.
-/

namespace Decipher

/-! ## Files of certain names -/

namespace FileTree

/-- That two trees differ in files of certain names at most, and in no directory.  The names are
last steps of paths, in whatever directory, which is as much as can be said of a place before the
path to it is followed. -/
structure DifferIn (names : List String) (t t' : FileTree) : Prop where
  directories : SameDirectories t t'
  others : ∀ place, (∀ name ∈ names, place.getLast? ≠ some name) → t'.node? place = t.node? place

variable {t t' t'' : FileTree} {names : List String} {dir name : String}

theorem DifferIn.refl (names : List String) (t : FileTree) : DifferIn names t t :=
  ⟨fun _ => Iff.rfl, fun _ _ => rfl⟩

theorem DifferIn.trans (first : DifferIn names t t') (second : DifferIn names t' t'') :
    DifferIn names t t'' :=
  ⟨first.directories.trans second.directories,
    fun place others => (second.others place others).trans (first.others place others)⟩

/-- What other names mean is the same, in whatever directory they are looked for. -/
theorem DifferIn.find (differ : DifferIn names t t') (named : Path.IsName name)
    (other : name ∉ names) :
    (t'.find (Path.join dir name)).toOption = (t.find (Path.join dir name)).toOption := by
  unfold FileTree.find
  cases led : t.resolve (Path.join dir name) with
  | error e =>
    cases led' : t'.resolve (Path.join dir name) with
    | error e' => rfl
    | ok place =>
      rw [differ.directories.symm.resolve led'] at led
      cases led
  | ok place =>
    have last := getLast?_of_resolve named led
    have kept : t'.node? place = t.node? place := by
      refine differ.others place fun among there => ?_
      rintro same
      rw [last, Option.some.injEq] at same
      exact other (same ▸ there)
    rw [differ.directories.resolve led]
    dsimp only
    rw [kept]

theorem differIn_put {place : FilePlace} {path : String} (admits : t.Admits path place)
    (last : place.getLast? = some name) (content : ByteArray) :
    DifferIn [name] t (t.put place (.file content)) := by
  refine ⟨sameDirectories_put content admits.noDirectory, fun other others => ?_⟩
  rw [node?_put (isGiven_of_node? admits.noDirectory), if_neg]
  rintro rfl
  exact others name List.mem_cons_self last

/-- Opening a file for writing changes that file at most. -/
theorem differIn_truncate (named : Path.IsName name) :
    DifferIn [name] t (t.perform (.truncate (Path.join dir name))).1 := by
  cases placed : t.filePlace (Path.join dir name) .isADirectory with
  | error e =>
    simp only [perform, truncate, placed]
    exact .refl _ t
  | ok place =>
    have admits := filePlace_eq_ok_iff.mp placed
    rw [perform_truncate admits]
    exact differIn_put admits (getLast?_of_resolve named admits.led) _

/-- So does writing into it. -/
theorem differIn_overwrite (named : Path.IsName name) (content : ByteArray) :
    DifferIn [name] t (t.perform (.overwrite (Path.join dir name) content)).1 := by
  simp only [perform, overwrite]
  split
  · exact .refl _ t
  · exact .refl _ t
  · rename_i place old found
    have admits := (admits_of_find found).1
    exact differIn_put admits (getLast?_of_resolve named admits.led) _

/-- Steps are taken one after another, and the first that fails is the last. -/
theorem performAll_cons (t : FileTree) (action : Action) (rest : List Action) :
    t.performAll (action :: rest) =
      match t.perform action with
      | (t, none) => t.performAll rest
      | (t, some e) => (t, some (action, e)) := rfl

/-- What steps change is what each of them changes, also if one of them fails.  The induction is on
the steps, for all trees that they may begin in. -/
theorem differIn_performAll {actions : List Action}
    (each : ∀ action ∈ actions, ∀ t : FileTree, DifferIn names t (t.perform action).1) :
    DifferIn names t (t.performAll actions).1 := by
  induction actions generalizing t with
  | nil => exact .refl _ t
  | cons action rest ih =>
    have first := each action List.mem_cons_self t
    rw [performAll_cons]
    split
    · rename_i t₁ done
      rw [done] at first
      exact first.trans (ih fun later there => each later (List.mem_cons_of_mem _ there))
    · rename_i t₁ e done
      rw [done] at first
      exact first

/-- A file that cannot be renamed stays as it is. -/
theorem performAll_rename_of_error {actions : List Action} {source target : String}
    {failure : Action × FileError}
    (fails : t.performAll (actions ++ [.rename source target]) = (t', some failure)) :
    (t.performAll actions).1 = t' := by
  induction actions generalizing t with
  | nil =>
    simp only [List.nil_append, performAll, perform, attempt] at fails ⊢
    cases renamed : t.rename source target with
    | error e =>
      rw [renamed] at fails
      cases fails
      rfl
    | ok t₁ =>
      rw [renamed] at fails
      cases fails
  | cons action rest ih =>
    rw [List.cons_append, performAll_cons] at fails
    rw [performAll_cons]
    split at fails
    · exact ih fails
    · cases fails
      rfl

end FileTree

/-! ## Entries -/

/-- That a digest names an entry of a cache in a directory: neither it nor the kind of the cache has
a slash in it. -/
structure FileCache.Names {α : Type} (c : FileCache α) (dir digest : String) : Prop where
  dir : c.dir = dir
  digest : '/' ∉ digest.toList
  kind : '/' ∉ c.kind.toList

/-- That from two trees the same is loaded, whatever entry of a directory it is.  The entries may
hold values of any type, so that those of the other caches in the directory are meant, too. -/
def SameEntries (dir : String) (t t' : FileTree) : Prop :=
  ∀ (α : Type) [Storable α] (c : FileCache α) (digest : String), c.Names dir digest →
    c.load t' digest = c.load t digest

namespace FileCache

variable {α β : Type} [Storable α] [Storable β] {c : FileCache α} {c' : FileCache β}
  {t t' : FileTree} {dir digest digest' : String} {value : α}

/-- What the entry of a digest reads as if it holds a text.  There is always an answer: a text that
is no value is reported with the path of the entry. -/
def reading (c : FileCache α) (digest text : String) : Except CacheError (Option α) :=
  match Storable.ofText text with
  | .error problem => .error (.invalid (c.entryPath digest) problem)
  | .ok value => .ok (some value)

theorem load_of_text {text : String} (there : t.readText (c.entryPath digest) = .ok text) :
    c.load t digest = c.reading digest text := by
  obtain ⟨place, content, admits, stands, -⟩ := FileTree.readText_eq_ok_iff.mp there
  have named : t.pathExists (c.entryPath digest) = true := by
    rw [FileTree.pathExists, admits.find stands]
    rfl
  rw [load, reading]
  cases reads : (Storable.ofText text : Except String α) <;>
    simp only [named, if_true, there, reads]

/-- What is loaded depends on what the path of the entry names, if it names anything.  Two trees
need not agree anywhere else, nor fail in the same way. -/
theorem load_congr (same : (t'.find (c.entryPath digest)).toOption =
    (t.find (c.entryPath digest)).toOption) : c.load t' digest = c.load t digest := by
  cases found : t.find (c.entryPath digest) with
  | error e =>
    cases found' : t'.find (c.entryPath digest) with
    | error e' =>
      -- What is wrong with the path may differ, but a load asks only whether something is there.
      have missing : t.pathExists (c.entryPath digest) = false := by
        rw [FileTree.pathExists, found]
        rfl
      have missing' : t'.pathExists (c.entryPath digest) = false := by
        rw [FileTree.pathExists, found']
        rfl
      rw [load, load]
      simp only [missing, missing', Bool.false_eq_true, if_false]
    | ok there =>
      rw [found, found'] at same
      cases same
  | ok there =>
    have found' : t'.find (c.entryPath digest) = .ok there := by
      rw [found] at same
      exact eq_ok_of_toOption same
    have same' := found'.trans found.symm
    have exists' : t'.pathExists (c.entryPath digest) = t.pathExists (c.entryPath digest) := by
      rw [FileTree.pathExists, FileTree.pathExists, same']
    have text : t'.readText (c.entryPath digest) = t.readText (c.entryPath digest) := by
      rw [FileTree.readText, FileTree.readText, FileTree.read_congr same']
    rw [load, load, exists', text]

omit [Storable α] in
theorem Names.isName (names : c.Names dir digest) : Path.IsName (c.entryName digest) :=
  isName_entryName names.digest names.kind

omit [Storable α] in
theorem Names.entryPath_eq (names : c.Names dir digest) :
    c.entryPath digest = Path.join dir (c.entryName digest) := by
  rw [FileCache.entryPath_eq, names.dir]

end FileCache

theorem SameEntries.trans {dir : String} {t t' t'' : FileTree} (first : SameEntries dir t t')
    (second : SameEntries dir t' t'') : SameEntries dir t t'' :=
  fun α _ c digest names => (second α c digest names).trans (first α c digest names)

/-- Making the directory changes no entry. -/
theorem sameEntries_made {dir : String} {t : FileTree} (rooted : t.Rooted)
    (steady : t.isDirectory dir = true ∨ Path.Descends dir) (n : Nat) :
    SameEntries dir t (t.makeDirectories (Path.parent^[n] dir)).1 := by
  intro α _ c digest names
  apply FileCache.load_congr
  rw [names.entryPath_eq]
  exact FileTree.find_made rooted steady names.isName n

/-- Neither do files of a name that no entry has. -/
theorem sameEntries_of_differIn {dir name : String} {t t' : FileTree}
    (differ : FileTree.DifferIn [name ++ ".tmp"] t t') : SameEntries dir t t' := by
  intro α _ c digest names
  apply FileCache.load_congr
  rw [names.entryPath_eq]
  refine differ.find names.isName ?_
  rw [List.mem_singleton]
  exact FileCache.entryName_ne_temporary _

/-! ## Saves -/

namespace FileCache

variable {α β : Type} [Storable α] [Storable β] {c : FileCache α} {c' : FileCache β}
  {t t' : FileTree} {dir digest digest' : String} {value : α}

/-- **What has been done of a save that stops**: nothing, or some of the directories have been made,
or all of them and the temporary file, with no bytes in it or with some. -/
inductive Begun (c : FileCache α) (digest : String) (value : α) : List FileTree.Action → Prop
  | nothing : Begun c digest value []
  | making (n : Nat) : Begun c digest value [.makeDirectories (Path.parent^[n] c.dir)]
  | opened : Begun c digest value
      [.makeDirectories c.dir, .truncate (temporaryPath (c.entryPath digest))]
  | writing (n : Nat) : Begun c digest value
      [.makeDirectories c.dir, .truncate (temporaryPath (c.entryPath digest)),
        .overwrite (temporaryPath (c.entryPath digest)) ((content value).extract 0 n)]

/-- **What a save leaves that stops**, because a step of it fails or because nothing comes after
what has been done. -/
inductive Leaves (c : FileCache α) (t : FileTree) (digest : String) (value : α) (t' : FileTree) :
    Prop
  | failed (e : CacheError) (fails : c.save t digest value = (t', .error e))
  | stopped (done : List FileTree.Action) (begun : c.Begun digest value done)
      (left : (t.performAll done).1 = t')

/-- The steps of a save that come before the last. -/
def preparations (c : FileCache α) (digest : String) (content : ByteArray) :
    List FileTree.Action :=
  [.truncate (temporaryPath (c.entryPath digest)),
    .overwrite (temporaryPath (c.entryPath digest)) content]

/-- The steps of a save: to make the directory, to prepare the file, and to give it its name.  A
save that stops early has taken some of them, from the front. -/
theorem saveActions_eq (c : FileCache α) (digest : String) (value : α) :
    c.saveActions digest value = .makeDirectories c.dir ::
      (c.preparations digest (content value) ++
        [.rename (temporaryPath (c.entryPath digest)) (c.entryPath digest)]) := rfl

omit [Storable α] in
/-- Preparing a save changes the temporary file only. -/
theorem differIn_preparations (named : Path.IsName (c.entryName digest)) (content : ByteArray)
    {done : List FileTree.Action} (among : done <+: c.preparations digest content) :
    FileTree.DifferIn [c.entryName digest ++ ".tmp"] t (t.performAll done).1 := by
  have named' := named.append isName_temporarySuffix
  refine FileTree.differIn_performAll fun action there u => ?_
  have there' := among.subset there
  rw [preparations, entryPath_eq, temporaryPath_eq named, List.mem_cons, List.mem_singleton]
    at there'
  rcases there' with rfl | rfl
  · exact FileTree.differIn_truncate named'
  · exact FileTree.differIn_overwrite named' content

omit [Storable α] in
/-- What is prepared once directories were made, or failed to be, is no entry. -/
theorem sameEntries_prepared (rooted : t.Rooted)
    (steady : t.isDirectory c.dir = true ∨ Path.Descends c.dir) (names : c.Names c.dir digest)
    (content : ByteArray) (n : Nat) {done : List FileTree.Action}
    (among : done <+: c.preparations digest content) :
    SameEntries c.dir t (t.performAll (.makeDirectories (Path.parent^[n] c.dir) :: done)).1 := by
  have made := sameEntries_made rooted steady n
  rw [FileTree.performAll_cons, FileTree.perform]
  split
  · rename_i t₁ ready
    rw [ready] at made
    exact made.trans (sameEntries_of_differIn (differIn_preparations names.isName content among))
  · rename_i t₁ e stopped
    rw [stopped] at made
    exact made

/-- **A save that stops changes no entry.**  A step that fails leaves what the steps before it have
done, so that both ways to stop come to the same: some directories, and a temporary file. -/
theorem Leaves.sameEntries (leaves : c.Leaves t digest value t') (rooted : t.Rooted)
    (steady : t.isDirectory c.dir = true ∨ Path.Descends c.dir) (names : c.Names c.dir digest) :
    SameEntries c.dir t t' := by
  cases leaves with
  | failed e fails =>
    obtain ⟨failure, performed⟩ : ∃ failure,
        t.performAll (c.saveActions digest value) = (t', some failure) := by
      rw [save] at fails
      split at fails
      · cases fails
      · rename_i t₁ action e' performed
        cases fails
        exact ⟨_, performed⟩
    rw [saveActions_eq, ← List.cons_append] at performed
    -- A save that fails has not given the file its name, which is the last thing that it does.
    rw [← FileTree.performAll_rename_of_error performed]
    exact sameEntries_prepared rooted steady names _ 0 (List.prefix_refl _)
  | stopped done begun left =>
    rw [← left]
    cases begun with
    | nothing => exact fun _ _ _ _ _ => rfl
    | making n =>
      exact sameEntries_prepared rooted steady names (content value) n List.nil_prefix
    | opened =>
      exact sameEntries_prepared rooted steady names (content value) 0 (List.prefix_append [_] [_])
    | writing n => exact sameEntries_prepared rooted steady names _ 0 (List.prefix_refl _)

omit [Storable α] in
/-- No entry has changed when the directory of a save was made. -/
theorem Receives.sameEntries {ready : FileTree} {temporary entry : FilePlace}
    (receives : c.Receives t digest ready temporary entry) (rooted : t.Rooted)
    (steady : t.isDirectory c.dir = true ∨ Path.Descends c.dir) : SameEntries c.dir t ready := by
  have made := sameEntries_made rooted steady 0
  rwa [Function.iterate_zero, id, receives.made] at made

/-- A save that succeeds changes the entry and the temporary file, once the directory is made. -/
theorem differIn_save {ready : FileTree} {temporary entry : FilePlace}
    (receives : c.Receives t digest ready temporary entry)
    (named : Path.IsName (c.entryName digest)) (value : α) :
    FileTree.DifferIn [c.entryName digest, c.entryName digest ++ ".tmp"] ready
      (c.save t digest value).1 := by
  refine ⟨sameDirectories_save receives value, fun place others => ?_⟩
  rw [node?_save receives, if_neg, if_neg]
  · rintro rfl
    exact others _ (by simp) (receives.getLast?_temporary named)
  · rintro rfl
    exact others _ (by simp) (receives.getLast?_entry named)

/-- What is loaded after a save that succeeds: the value that was saved, as far as its text reads as
one, or else what was loaded before. -/
theorem load_of_saved (saved : c.save t digest value = (t', .ok ())) (rooted : t.Rooted)
    (steady : t.isDirectory c.dir = true ∨ Path.Descends c.dir) (names : c.Names c.dir digest)
    (names' : c'.Names c.dir digest') :
    c'.load t' digest' =
      if c'.entryPath digest' = c.entryPath digest then
        c'.reading digest' (Storable.toText value)
      else c'.load t digest' := by
  have succeeds : (c.save t digest value).2 = .ok () := by rw [saved]
  have left : (c.save t digest value).1 = t' := by rw [saved]
  split
  · rename_i same
    refine load_of_text ?_
    rw [same, ← left]
    exact readText_of_save succeeds
  · rename_i other
    obtain ⟨ready, temporary, entry, receives⟩ := receives_of_save succeeds
    rw [← receives.sameEntries rooted steady β c' digest' names', ← left]
    apply load_congr
    rw [names'.entryPath_eq]
    refine (differIn_save receives names.isName value).find names'.isName ?_
    rw [List.mem_cons, List.mem_singleton, not_or]
    refine ⟨fun same => other ?_, entryName_ne_temporary _⟩
    rw [names'.entryPath_eq, names.entryPath_eq, same]

/-- **Saves are contained.**  Let a tree be one of a file system, and the directory of a cache be
there or have a path without steps upward.  Whatever is saved under whatever digest, and wherever
the save stops: what is loaded from the directory afterwards is what was loaded before, for every
kind of entries and every digest.  And if the save succeeds, what is loaded from its own entry is
what the text of the value reads as, and nothing else that is loaded changes. -/
theorem save_contained (value : α) (rooted : t.Rooted)
    (steady : t.isDirectory c.dir = true ∨ Path.Descends c.dir) (names : c.Names c.dir digest) :
    (∀ t', c.Leaves t digest value t' → SameEntries c.dir t t') ∧
      ∀ t', c.save t digest value = (t', .ok ()) →
        ∀ (β : Type) [Storable β] (c' : FileCache β) (digest' : String),
          c'.Names c.dir digest' →
            c'.load t' digest' =
              if c'.entryPath digest' = c.entryPath digest then
                c'.reading digest' (Storable.toText value)
              else c'.load t digest' :=
  ⟨fun _ leaves => leaves.sameEntries rooted steady names,
    fun _ saved _ _ _ _ names' => load_of_saved saved rooted steady names names'⟩

/-! ### Two directories -/

/-- A directory with an entry in it, and with a directory in the way of another.  A save to `k`
succeeds there, and one to `z` stops when it opens its temporary file. -/
def stocked : FileTree :=
  ((FileTree.empty.put ["cache"] .directory).put ["cache", "k.s.json"]
    (.file (content "old"))).put ["cache", "z.s.json.tmp"] .directory

theorem rooted_stocked : stocked.Rooted := by
  have rooted : (FileTree.empty.put ["cache"] .directory).Rooted :=
    FileTree.rooted_empty.put_concat [] "cache" .directory rfl nofun
  have rooted' := rooted.put_concat ["cache"] "k.s.json" (.file (content "old")) rfl nofun
  exact rooted'.put_concat ["cache"] "z.s.json.tmp" .directory rfl nofun

/-- The entries of a directory. -/
def inCache : FileCache String := ⟨"cache", "s"⟩

theorem names_inCache : inCache.Names inCache.dir "k" := ⟨rfl, by decide, by decide⟩

/-- Nothing is in the way of the entry for `k`. -/
theorem keeps_stocked :
    inCache.Keeps stocked "k" ["cache", "k.s.json.tmp"] ["cache", "k.s.json"] :=
  ⟨rfl, ⟨rfl, rfl, nofun⟩, ⟨rfl, rfl, nofun⟩⟩

/-- The same entries, by way of a directory that is not there.  The step upward behind it leads back
as soon as a save has made it, and to nothing before. -/
def throughNew : FileCache String := ⟨"cache/new/..", "s"⟩

/-- By either way the entry for `k` is the old one. -/
theorem load_old {c : FileCache String} {t : FileTree}
    (led : t.resolve (c.entryPath "k") = .ok ["cache", "k.s.json"])
    (noSlash : Path.endsInSlash (c.entryPath "k") = false)
    (there : t.node? ["cache", "k.s.json"] = some (.file (content "old"))) :
    c.load t "k" = .ok (some "old") := by
  have admits : t.Admits (c.entryPath "k") ["cache", "k.s.json"] :=
    ⟨led, noSlash, by rw [there]; nofun⟩
  rw [load_of_text (admits.readText there), reading, Storable.ofText_toText_eq_ok]

/-- An entry outlives all saves to it that stop, and gives way to one that succeeds. -/
theorem inCache_contained :
    inCache.load stocked "k" = .ok (some "old") ∧
      (∀ t', inCache.Leaves stocked "k" "new" t' → inCache.load t' "k" = .ok (some "old")) ∧
      ∃ t', inCache.save stocked "k" "new" = (t', .ok ()) ∧
        inCache.load t' "k" = .ok (some "new") := by
  have contained := save_contained "new" rooted_stocked (.inl rfl) names_inCache
  have before : inCache.load stocked "k" = .ok (some "old") := load_old rfl rfl rfl
  have saved := save_of_receives keeps_stocked.receives "new"
  refine ⟨before, fun t' leaves => ?_, _, saved, ?_⟩
  · rw [contained.1 t' leaves _ inCache "k" names_inCache, before]
  · rw [contained.2 _ saved _ inCache "k" names_inCache, if_pos rfl, reading,
      Storable.ofText_toText_eq_ok]

/-- What is left of a save that makes the directory and cannot write in it. -/
theorem save_throughNew : throughNew.save stocked "z" "new" =
    (stocked.put ["cache", "new"] .directory,
      .error (.unwritable "cache/new/../z.s.json.tmp" .isADirectory)) := by
  rfl

/-- With steps upward a save that stops can change what is loaded. -/
theorem not_sameEntries :
    ¬ ∀ (c : FileCache String) (t t' : FileTree) (digest value : String), t.Rooted →
      c.Names c.dir digest → c.Leaves t digest value t' → SameEntries c.dir t t' := by
  intro all
  have names (digest : String) (noSlash : '/' ∉ digest.toList) :
      throughNew.Names throughNew.dir digest := ⟨rfl, noSlash, by decide⟩
  have same := all throughNew stocked _ "z" "new" rooted_stocked (names "z" (by decide))
    (.failed _ save_throughNew) _ throughNew "k" (names "k" (by decide))
  have missing : throughNew.load stocked "k" = .ok none := rfl
  rw [load_old rfl rfl rfl, missing] at same
  cases same

end FileCache

end Decipher
