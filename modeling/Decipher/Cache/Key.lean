import Decipher.Digest.Blake3
import Decipher.Files.Path
import Decipher.Json.Record
import Decipher.Text.Blank

/-!
# Keys of scripts

A script is known by an identity, such as the address that it was loaded from.
Blanks around an identity mean nothing.  The key of a script is the digest of its
identity, together with the path at which its source is stored.
-/

namespace Decipher

structure CacheKey where
  digest : String
  sourcePath : String
  deriving DecidableEq

/-- Why an identity has no key. -/
structure ResolutionError where
  identity : String
  reason : String
  deriving DecidableEq

def ResolutionError.message (e : ResolutionError) : String :=
  "cannot resolve '" ++ e.identity ++ "': " ++ e.reason

/-- The digest of an identity. -/
def identityDigest (identity : String) : String :=
  Blake3.hexDigest (trim identity).toUTF8

namespace CacheKey

/-- The name of the file that holds a script's source. -/
def sourceName (digest : String) : String := digest ++ ".js"

/-- The key of a digest, with the source stored in `dir`. -/
def ofDigest (dir digest : String) : CacheKey := ⟨digest, Path.join dir (sourceName digest)⟩

/-- The key of an identity, with the source stored in `dir`. -/
def resolve (dir identity : String) : Except ResolutionError CacheKey :=
  if (trim identity).isEmpty then .error ⟨identity, "empty identity"⟩
  else .ok (ofDigest dir (identityDigest identity))

/-! ## Written form -/

/-- A key as JSON. -/
def toEntry (key : CacheKey) : Json :=
  .object [("digest", .string key.digest), ("source_path", .string key.sourcePath)]

open Json

def label : String := "struct CacheKey"

def lengthLabel : String := "struct CacheKey with 2 elements"

/-- What messages call the value of a field that holds a path. -/
def pathLabel : String := "path string"

/-- The fields of a key that are known so far. -/
structure Partial where
  digest : Option String := none
  sourcePath : Option String := none

/-- Takes one member of the object form. -/
def readMemberInto (known : Partial) (key : String) (cs : List Char) : Reading Partial :=
  if key = "digest" then
    (readField key known.digest (readString stringLabel) cs).map
      fun (s, cs) => ({ known with digest := some s }, cs)
  else if key = "source_path" then
    (readField key known.sourcePath (readString pathLabel) cs).map
      fun (s, cs) => ({ known with sourcePath := some s }, cs)
  else (skipMember cs).map fun cs => (known, cs)

/-- The object form of a key. -/
def readMembers (cs : List Char) : Except Fault (CacheKey × List Char) := do
  let (known, cs) ← foldMembers readMemberInto cs true {} cs
  let digest ← requireField "digest" known.digest cs
  let sourcePath ← requireField "source_path" known.sourcePath cs
  return (⟨digest, sourcePath⟩, cs)

/-- The array form of a key. -/
def readItems (cs : List Char) : Except Fault (CacheKey × List Char) := do
  let (digest, cs) ← readElement 0 lengthLabel (readString stringLabel) cs
  let (sourcePath, cs) ← readElement 1 lengthLabel (readString pathLabel) cs
  return (⟨digest, sourcePath⟩, cs)

/-- The key that a text holds. -/
def ofText (text : String) : Except String CacheKey :=
  let read := readRecord label maxNesting (fun _ => readItems) (fun _ => readMembers)
  (readWholeText read text.toList).mapError (Fault.message text.toList)

end CacheKey

end Decipher
