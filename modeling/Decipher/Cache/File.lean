import Decipher.Cache.Storable
import Decipher.Files.Tree

/-!
# Caches in files

A file cache keeps one file in its directory for each digest that has a value.  The
name of the file is made of the digest and of the kind of the cache, so that caches of
several kinds can share a directory.

A value is written in four steps: the directory is made, a temporary file beside the
entry is emptied, the text of the value is put into it, and it is given the name of the
entry.  `saveActions` lists the steps, so that what happens between two of them, or when
one of them is the last, can be spoken of.

As a cache it never fails: an entry that cannot be read is not there, and a value that
cannot be written is forgotten.
-/

namespace Decipher

/-- A cache of values of one type. -/
structure FileCache (α : Type) where
  dir : String
  kind : String

/-- Why an entry could not be read or written. -/
inductive CacheError
  | unreadable (path : String) (e : FileError)
  | invalid (path : String) (problem : String)
  | noDirectory (dir : String) (e : FileError)
  | unwritable (path : String) (e : FileError)
  | notRenamed (source target : String) (e : FileError)

namespace CacheError

def message : CacheError → String
  | unreadable path e => "cannot read " ++ path ++ ": " ++ e.message
  | invalid path problem => "invalid cache entry " ++ path ++ ": " ++ problem
  | noDirectory dir e => "cannot create dir " ++ dir ++ ": " ++ e.message
  | unwritable path e => "cannot write " ++ path ++ ": " ++ e.message
  | notRenamed source target e =>
    "cannot rename " ++ source ++ " → " ++ target ++ ": " ++ e.message

/-- The error of a step that failed. -/
def ofStep (action : FileTree.Action) (e : FileError) : CacheError :=
  match action with
  | .makeDirectories dir => noDirectory dir e
  | .truncate path => unwritable path e
  | .overwrite path _ => unwritable path e
  | .rename source target => notRenamed source target e

end CacheError

namespace FileCache

variable {α : Type}

/-- The path of the entry of a digest. -/
def entryPath (c : FileCache α) (digest : String) : String :=
  Path.join c.dir (digest ++ "." ++ c.kind ++ ".json")

/-- The path of the file that an entry is written to first. -/
def temporaryPath (path : String) : String :=
  Path.withFileName path (Path.fileName path ++ ".tmp")

section Values

variable [Storable α]

/-- The value in the entry of a digest, if there is an entry. -/
def load (c : FileCache α) (t : FileTree) (digest : String) : Except CacheError (Option α) :=
  let path := c.entryPath digest
  if t.pathExists path then
    match t.readText path with
    | .error e => .error (.unreadable path e)
    | .ok text =>
      match Storable.ofText text with
      | .error problem => .error (.invalid path problem)
      | .ok value => .ok (some value)
  else .ok none

/-- The steps that write an entry. -/
def saveActions (c : FileCache α) (digest : String) (value : α) : List FileTree.Action :=
  let path := c.entryPath digest
  let temporary := temporaryPath path
  [.makeDirectories c.dir, .truncate temporary,
    .overwrite temporary (Utf8.encode (Storable.toText value)), .rename temporary path]

/-- Writes the entry of a digest. -/
def save (c : FileCache α) (t : FileTree) (digest : String) (value : α) :
    FileTree × Except CacheError Unit :=
  match t.performAll (c.saveActions digest value) with
  | (t, none) => (t, .ok ())
  | (t, some (action, e)) => (t, .error (.ofStep action e))

/-- The value under a digest. -/
def get? (c : FileCache α) (t : FileTree) (digest : String) : Option α :=
  match c.load t digest with
  | .ok value => value
  | .error _ => none

/-- Puts a value under a digest, if it can be written. -/
def set (c : FileCache α) (t : FileTree) (digest : String) (value : α) : FileTree :=
  (c.save t digest value).1

end Values

end FileCache

end Decipher
