import Decipher.Files.Path
import Decipher.Text.Utf8

/-!
# Files

A `FileTree` is what a program can see of a file system: files with their bytes, and
directories.  A place in it is the list of names that leads there from the working
directory; the empty list is the working directory itself.  Places elsewhere start with
the name of the root or with steps upward.  The root and the directories above the
working directory are always there.

Paths are resolved as an operating system does, from one directory to the next,
so that each operation knows why it failed.

There are no links.  A place is a directory or a file of its own, so that what is written
at one place is not seen at another.  Where there are symbolic or hard links this can be
otherwise: a temporary file that is a link to some other file is written through, and what
is said about the other entries of a cache, while one of them is saved, does not carry over.
Nor are there permissions, or a limit to the space.
-/

namespace Decipher

/-- Why an operation on files failed. -/
inductive FileError
  | notFound
  | alreadyExists
  | notADirectory
  | isADirectory
  | nameTooLong
  | nulInName
  | notText
  deriving DecidableEq

namespace FileError

def message : FileError → String
  | notFound => "No such file or directory (os error 2)"
  | alreadyExists => "File exists (os error 17)"
  | notADirectory => "Not a directory (os error 20)"
  | isADirectory => "Is a directory (os error 21)"
  | nameTooLong => "File name too long (os error 36)"
  | nulInName => "file name contained an unexpected NUL byte"
  | notText => "stream did not contain valid UTF-8"

end FileError

/-- What stands at a place. -/
inductive FileNode
  | directory
  | file (content : ByteArray)

/-- The names that lead to a place. -/
abbrev FilePlace := List String

namespace FilePlace

/-- The place at which absolute paths start. -/
def root : FilePlace := ["/"]

/-- The step that leads nowhere else. -/
def stay : String := "."

/-- The step upward. -/
def upward : String := ".."

/-- Whether a place is the working directory, a directory above it, or the root. -/
def isGiven (place : FilePlace) : Bool := place.all (· == upward) || place == root

/-- The directory above a directory. -/
def above (place : FilePlace) : FilePlace :=
  if place = root then root
  else if place.all (· == upward) then place ++ [upward]
  else place.dropLast

/-- The place to which a step leads from a directory. -/
def step (place : FilePlace) (name : String) : FilePlace :=
  if name = stay then place
  else if name = upward then place.above
  else place ++ [name]

/-- Whether a place is below the working directory. -/
def isBelow (place : FilePlace) : Bool :=
  match place with
  | [] => false
  | name :: _ => !(name == upward || root.contains name)

end FilePlace

structure FileTree where
  /-- The places where something stands, besides those that are always there, and what
  stands there. -/
  entries : List (FilePlace × FileNode)

namespace FileTree

/-- Directories with nothing in them. -/
def empty : FileTree := ⟨[]⟩

/-! ## Places -/

/-- What stands at a place, if anything does. -/
def node? (t : FileTree) (place : FilePlace) : Option FileNode :=
  if place.isGiven then some .directory else t.entries.lookup place

/-- Puts something at a place, in the stead of what stood there. -/
def put (t : FileTree) (place : FilePlace) (node : FileNode) : FileTree :=
  ⟨(place, node) :: t.entries.filter fun e => e.1 ≠ place⟩

/-- Takes away what stands at a place. -/
def erase (t : FileTree) (place : FilePlace) : FileTree :=
  ⟨t.entries.filter fun e => e.1 ≠ place⟩

/-! ## Paths -/

/-- The longest name that a file can have, in bytes. -/
def maxNameLength : Nat := 255

/-- The length that a path must stay below, in bytes. -/
def pathLimit : Nat := 4096

/-- Takes one step from the directory at `place`, whether or not it leads to
something. -/
def land (place : FilePlace) (name : String) : Except FileError FilePlace :=
  if maxNameLength < name.utf8ByteSize then .error .nameTooLong else .ok (place.step name)

/-- Takes steps from the directory at `place`.  Each of them must lead to a
directory. -/
def walk (t : FileTree) (place : FilePlace) : List String → Except FileError FilePlace
  | [] => .ok place
  | name :: rest =>
    match land place name with
    | .error e => .error e
    | .ok place =>
      match t.node? place with
      | none => .error .notFound
      | some (.file _) => .error .notADirectory
      | some .directory => walk t place rest

/-- The directory from which a path takes its last step. -/
def approach (t : FileTree) (path : String) : Except FileError FilePlace :=
  if path.toList.contains '\x00' then .error .nulInName
  else if path.isEmpty then .error .notFound
  else if pathLimit ≤ path.utf8ByteSize then .error .nameTooLong
  else t.walk (if Path.isAbsolute path then .root else []) (Path.steps path).dropLast

/-- The place to which the last step of a path leads from a directory. -/
def arrive (place : FilePlace) (path : String) : Except FileError FilePlace :=
  match (Path.steps path).getLast? with
  | none => .ok place
  | some name => land place name

/-- The place that a path names, whether or not something stands there. -/
def resolve (t : FileTree) (path : String) : Except FileError FilePlace :=
  match t.approach path with
  | .error e => .error e
  | .ok place => arrive place path

/-- What a path names.  Behind the name of a file there can be no slash. -/
def find (t : FileTree) (path : String) : Except FileError (FilePlace × FileNode) :=
  match t.resolve path with
  | .error e => .error e
  | .ok place =>
    match t.node? place with
    | none => .error .notFound
    | some .directory => .ok (place, .directory)
    | some (.file content) =>
      if Path.endsInSlash path then .error .notADirectory else .ok (place, .file content)

/-- Whether a path names something. -/
def pathExists (t : FileTree) (path : String) : Bool := (t.find path).isOk

/-- Whether a path names a directory. -/
def isDirectory (t : FileTree) (path : String) : Bool :=
  match t.find path with
  | .ok (_, .directory) => true
  | _ => false

/-! ## Reading -/

/-- The bytes of a file. -/
def read (t : FileTree) (path : String) : Except FileError ByteArray :=
  match t.find path with
  | .error e => .error e
  | .ok (_, .directory) => .error .isADirectory
  | .ok (_, .file content) => .ok content

/-- The text of a file. -/
def readText (t : FileTree) (path : String) : Except FileError String :=
  match t.read path with
  | .error e => .error e
  | .ok content =>
    match Utf8.decode? content with
    | some text => .ok text
    | none => .error .notText

/-! ## Writing -/

/-- Makes one directory. -/
def makeDirectory (t : FileTree) (path : String) : Except FileError FileTree :=
  match t.resolve path with
  | .error e => .error e
  | .ok place =>
    match t.node? place with
    | some _ => .error .alreadyExists
    | none => .ok (t.put place .directory)

/-- Makes a directory, unless it is there already. -/
def ensureDirectory (t : FileTree) (path : String) : Except FileError FileTree :=
  match t.makeDirectory path with
  | .ok t => .ok t
  | .error e => if t.isDirectory path then .ok t else .error e

/-- Makes a directory and those above it that are not there yet.  Those that were made
stay, even if others could not be made.  The fuel bounds their number. -/
def makeDirectoriesWithin : Nat → FileTree → String → FileTree × Option FileError
  | fuel, t, path =>
    if path.isEmpty then (t, none)
    else
      match t.ensureDirectory path with
      | .ok t => (t, none)
      | .error .notFound =>
        match fuel with
        | 0 => (t, some .notFound)
        | fuel + 1 =>
          match makeDirectoriesWithin fuel t (Path.parent path) with
          | (t, some e) => (t, some e)
          | (t, none) =>
            match t.ensureDirectory path with
            | .ok t => (t, none)
            | .error e => (t, some e)
      | .error e => (t, some e)

/-- Makes a directory and those above it that are not there yet.  Those that were made
stay, even if others could not be made. -/
def makeDirectories (t : FileTree) (path : String) : FileTree × Option FileError :=
  makeDirectoriesWithin path.length t path

/-- The place at which a path lets a file stand.  A slash at the end of the path lets
none, for a reason that depends on what is to be done. -/
def filePlace (t : FileTree) (path : String) (slash : FileError) :
    Except FileError FilePlace :=
  match t.approach path with
  | .error e => .error e
  | .ok place =>
    if Path.endsInSlash path then .error slash
    else
      match arrive place path with
      | .error e => .error e
      | .ok place =>
        match t.node? place with
        | some .directory => .error .isADirectory
        | _ => .ok place

/-- Opens a file for writing and leaves it without content. -/
def truncate (t : FileTree) (path : String) : Except FileError FileTree :=
  (t.filePlace path .isADirectory).map fun place => t.put place (.file .empty)

/-- Puts bytes over the beginning of a file.  What the file holds behind them
stays. -/
def overwrite (t : FileTree) (path : String) (content : ByteArray) :
    Except FileError FileTree :=
  match t.find path with
  | .error e => .error e
  | .ok (_, .directory) => .error .isADirectory
  | .ok (place, .file old) =>
    .ok (t.put place (.file (content ++ old.extract content.size old.size)))

/-- Gives a file the name of another, which is gone after that. -/
def rename (t : FileTree) (source target : String) : Except FileError FileTree :=
  match t.find source with
  | .error e => .error e
  | .ok (_, .directory) => .error .isADirectory
  | .ok (place, .file content) =>
    match t.filePlace target .notADirectory with
    | .error e => .error e
    | .ok place' => .ok ((t.erase place).put place' (.file content))

/-! ## Actions -/

/-- One step of a program that changes files.  What happens between two steps of
one program is up to others. -/
inductive Action
  | makeDirectories (path : String)
  | truncate (path : String)
  | overwrite (path : String) (content : ByteArray)
  | rename (source target : String)

/-- What is left of an operation that changes nothing if it fails. -/
def attempt (t : FileTree) (result : Except FileError FileTree) : FileTree × Option FileError :=
  match result with
  | .ok t => (t, none)
  | .error e => (t, some e)

/-- Performs one step.  If it fails, its error comes back with what it did before. -/
def perform (t : FileTree) : Action → FileTree × Option FileError
  | .makeDirectories path => t.makeDirectories path
  | .truncate path => t.attempt (t.truncate path)
  | .overwrite path content => t.attempt (t.overwrite path content)
  | .rename source target => t.attempt (t.rename source target)

/-- Performs steps up to the first one that fails.  That one comes back with its
error; what was done before stays done. -/
def performAll (t : FileTree) : List Action → FileTree × Option (Action × FileError)
  | [] => (t, none)
  | action :: rest =>
    match t.perform action with
    | (t, none) => t.performAll rest
    | (t, some e) => (t, some (action, e))

/-- Writes a file in one go. -/
def write (t : FileTree) (path : String) (content : ByteArray) : Except FileError FileTree :=
  match t.truncate path with
  | .error e => .error e
  | .ok t => t.overwrite path content

/-- Takes a file away, if there is one. -/
def remove (t : FileTree) (path : String) : FileTree :=
  match t.find path with
  | .ok (place, .file _) => t.erase place
  | _ => t

/-! ## Listing -/

/-- The text of a place.  That of a directory ends in a slash. -/
def placeText (place : FilePlace) (node : FileNode) : String :=
  match node with
  | .directory => "/".intercalate place ++ "/"
  | .file _ => "/".intercalate place

/-- What stands below the working directory, each with the text of its place. -/
def listing (t : FileTree) : List (String × FileNode) :=
  (t.entries.filter fun e => e.1.isBelow).map fun (place, node) => (placeText place node, node)

end FileTree

end Decipher
