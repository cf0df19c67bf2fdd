import Decipher.Cache.File

/-!
# Saves that race

Two programs can save to one entry at the same time.  Each of them takes the steps of a save in
their order; whose step comes next is up to neither.

A file that a program has opened stays open, whatever becomes of its name.  So bytes go to the
place at which the file stands when they are written, and if another file has taken its place, to
none that anybody sees.
-/

namespace Decipher

/-- One of two that race. -/
inductive Side
  | left
  | right
  deriving DecidableEq

def Side.other : Side → Side
  | left => right
  | right => left

namespace FileTree

/-- The places from which and to which a file goes that is given the name of another, if it can
be given that name. -/
def move? (t : FileTree) (source target : String) : Option (FilePlace × FilePlace) :=
  match t.find source, t.filePlace target .notADirectory with
  | .ok (place, .file _), .ok place' => some (place, place')
  | _, _ => none

/-- Bytes with others put over their beginning. -/
def overlay (content old : ByteArray) : ByteArray :=
  content ++ old.extract content.size old.size

/-- Puts bytes over the beginning of an open file, which may have no place any more. -/
def overwriteAt (t : FileTree) (file : Option FilePlace) (content : ByteArray) : FileTree :=
  match file with
  | none => t
  | some place =>
    match t.node? place with
    | some (.file old) => t.put place (.file (overlay content old))
    | _ => t

end FileTree

/-- Where a save stands: what it has to do next, or what it came to. -/
inductive SaveStage
  | making
  | opening
  | writing (file : Option FilePlace)
  | naming
  | finished (result : Except CacheError Unit)

namespace SaveStage

/-- A stage after a file has moved: an open file goes along, or loses its place to the one that
moves there. -/
def follow (move : Option (FilePlace × FilePlace)) : SaveStage → SaveStage
  | writing (some place) =>
    match move with
    | none => writing (some place)
    | some (source, target) =>
      writing (if place = source then some target else if place = target then none else some place)
  | stage => stage

/-- Takes the next step of a save.  With the tree and the stage that are left comes the move of a
file, if the step has moved one. -/
def step {α : Type} [Storable α] (c : FileCache α) (digest : String) (value : α) (t : FileTree) :
    SaveStage → FileTree × SaveStage × Option (FilePlace × FilePlace)
  | making =>
    match t.makeDirectories c.dir with
    | (t, none) => (t, opening, none)
    | (t, some e) => (t, finished (.error (.noDirectory c.dir e)), none)
  | opening =>
    let temporary := FileCache.temporaryPath (c.entryPath digest)
    match t.filePlace temporary .isADirectory with
    | .ok place => (t.put place (.file .empty), writing (some place), none)
    | .error e => (t, finished (.error (.unwritable temporary e)), none)
  | writing file =>
    (t.overwriteAt file (Utf8.encode (Storable.toText value)), naming, none)
  | naming =>
    let path := c.entryPath digest
    let temporary := FileCache.temporaryPath path
    match t.rename temporary path with
    | .ok t' => (t', finished (.ok ()), t.move? temporary path)
    | .error e => (t, finished (.error (.notRenamed temporary path e)), none)
  | finished result => (t, finished result, none)

end SaveStage

/-- Two saves to one entry. -/
structure SaveRace where
  tree : FileTree
  stage : Side → SaveStage

namespace SaveRace

/-- Two saves of which nothing has been done. -/
def start (tree : FileTree) : SaveRace := ⟨tree, fun _ => .making⟩

variable {α : Type} [Storable α] (c : FileCache α) (digest : String) (value : Side → α)

/-- Lets one of the saves take its next step. -/
def step (s : SaveRace) (who : Side) : SaveRace :=
  let (tree, stage, move) := (s.stage who).step c digest (value who) s.tree
  ⟨tree, fun side => if side = who then stage else (s.stage side).follow move⟩

/-- Lets the saves take steps in turns. -/
def run (s : SaveRace) (turns : List Side) : SaveRace := turns.foldl (step c digest value) s

end SaveRace

end Decipher
