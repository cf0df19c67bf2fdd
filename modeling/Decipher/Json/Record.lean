import Decipher.Json.Reader

/-!
# Reading records

A record with named fields is written as an object, or as the array of its fields
in order.  The readers here take a record apart while its text is read, so that
the first thing wrong with the text is reported, be it a matter of form or of
kind.

In an object a field may stand anywhere, fields that the record does not have are
skipped, and no field may stand twice.  In an array there must be exactly as many
items as fields.
-/

namespace Decipher

namespace Json

/-- The fault of a value that is of another kind than expected.  A word, a number
or a string is read first, so that a fault in its form comes before. -/
def wrongKind (expected : String) (cs : List Char) : Fault :=
  match cs with
  | '[' :: _ => .here (.mismatch (.invalidType .sequence expected)) cs
  | '{' :: _ => .here (.mismatch (.invalidType .map expected)) cs
  | _ =>
    match readScalar cs with
    | .error fault => fault
    | .ok (v, rest) => .here (.mismatch (.invalidType (.ofJson v) expected)) rest

/-- What messages call a string. -/
def stringLabel : String := "a string"

/-- A string from a value. -/
def stringOfValue : Json → Except Mismatch String
  | .string s => .ok s
  | v => .error (.invalidType (.ofJson v) stringLabel)

/-- A string. -/
def readString (expected : String) (cs : List Char) : Reading String :=
  match skipBlanks cs with
  | '"' :: rest => readQuoted rest
  | rest => .error (wrongKind expected rest)

/-- The word `null` where nothing else makes sense. -/
def readUnit (expected : String) (cs : List Char) : Reading Unit :=
  match skipBlanks cs with
  | 'n' :: rest => (readWord "ull".toList rest).map fun rest => ((), rest)
  | rest => .error (wrongKind expected rest)

section Records

variable {α σ : Type}

/-- The array of the items that `item` reads. -/
def readList (expected : String) (nesting : Nat) (item : Nat → List Char → Reading α)
    (cs : List Char) : Reading (List α) :=
  match skipBlanks cs with
  | '[' :: rest =>
    match nesting with
    | 0 => .error (.next .tooDeep ('[' :: rest))
    | nesting + 1 => readArray (item nesting) rest
  | rest => .error (wrongKind expected rest)

/-- A record in either form.  The readers of the two forms are handed the text
behind the opening bracket and stop before the closing one. -/
def readRecord (expected : String) (nesting : Nat) (ofItems : Nat → List Char → Reading α)
    (ofMembers : Nat → List Char → Reading α) (cs : List Char) : Reading α :=
  match skipBlanks cs with
  | '[' :: rest =>
    match nesting with
    | 0 => .error (.next .tooDeep ('[' :: rest))
    | nesting + 1 =>
      match ofItems nesting rest with
      | .error fault => .error (fault.settle afterArray)
      | .ok (x, rest) => (closeArray rest).map fun rest => (x, rest)
  | '{' :: rest =>
    match nesting with
    | 0 => .error (.next .tooDeep ('{' :: rest))
    | nesting + 1 =>
      match ofMembers nesting rest with
      | .error fault => .error (fault.settle afterObject)
      | .ok (x, rest) => (closeObject rest).map fun rest => (x, rest)
  | rest => .error (wrongKind expected rest)

/-- The field of a record at an index of the array form. -/
def readElement (index : Nat) (expected : String) (read : List Char → Reading α)
    (cs : List Char) : Reading α :=
  match nextItem (index = 0) cs with
  | .error fault => .error fault
  | .ok none => .error (.pending (.invalidLength index expected) cs)
  | .ok (some cs) => read cs

/-- The value of a member, behind its colon. -/
def readMember (read : List Char → Reading α) (cs : List Char) : Reading α :=
  match readColon cs with
  | .error fault => .error fault
  | .ok cs => read cs

/-- The value of a field of the object form, unless the field was there
before. -/
def readField (name : String) (known : Option α) (read : List Char → Reading α)
    (cs : List Char) : Reading α :=
  if known.isSome then .error (.pending (.duplicateField name) cs) else readMember read cs

/-- The value of a member that the record does not have. -/
def skipMember (cs : List Char) : Except Fault (List Char) :=
  match readColon cs with
  | .error fault => .error fault
  | .ok cs => skipValue cs

/-- Collects what is known of a record from the members of its object form.
`step` takes the text behind a key.  The length of the first text bounds the number
of members, as in `readMembers`. -/
def foldMembers (step : σ → String → List Char → Reading σ) :
    List Char → Bool → σ → List Char → Reading σ
  | [], _, _, _ => .error (.next .endInObject [])
  | _ :: fuel, first, known, cs =>
    match nextMember first cs with
    | .error fault => .error fault
    | .ok none => .ok (known, cs)
    | .ok (some (key, cs)) =>
      match step known key cs with
      | .error fault => .error fault
      | .ok (known, cs) => foldMembers step fuel false known cs

/-- A field that must be there, at the end of the object form. -/
def requireField (name : String) (known : Option α) (cs : List Char) : Except Fault α :=
  match known with
  | some x => .ok x
  | none => .error (.pending (.missingField name) cs)

end Records

end Json

end Decipher
