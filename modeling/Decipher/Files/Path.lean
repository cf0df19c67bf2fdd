/-!
# Paths

A path is the text that names a file, its parts separated by slashes.  Empty parts
mean nothing, but a slash at the end of a path can matter.  `join` puts one path behind
another and `parent` takes the last part away, both as texts; `steps` are what a path
says to do, one after another.
-/

namespace Decipher

namespace Path

/-- Whether a path starts at the root of all files. -/
def isAbsolute (path : String) : Bool := path.toList.head? == some '/'

/-- Whether a path ends in a slash. -/
def endsInSlash (path : String) : Bool := path.toList.getLast? == some '/'

/-- A path below a directory.  An absolute path stands for itself. -/
def join (dir path : String) : String :=
  if isAbsolute path || dir.isEmpty then path
  else if endsInSlash dir then dir ++ path
  else dir ++ "/" ++ path

/-- The parts of a text between slashes. -/
def split (cs : List Char) : List (List Char) := cs.splitOn '/'

/-- The steps of a path. -/
def steps (path : String) : List String :=
  ((split path.toList).filter fun part => !part.isEmpty).map String.ofList

/-- Takes slashes, and dots behind slashes, off the end of a reversed path.  The
first character of a path stays. -/
def trimEnd : List Char → List Char
  | '/' :: c :: rest => trimEnd (c :: rest)
  | '.' :: '/' :: rest => trimEnd ('/' :: rest)
  | cs => cs

/-- The last part of a path. -/
def fileName (path : String) : String :=
  String.ofList ((trimEnd path.toList.reverse).takeWhile (· ≠ '/')).reverse

/-- A path without its last part. -/
def parent (path : String) : String :=
  String.ofList (trimEnd ((trimEnd path.toList.reverse).dropWhile (· ≠ '/'))).reverse

/-- A path with another last part. -/
def withFileName (path name : String) : String := join (parent path) name

end Path

end Decipher
