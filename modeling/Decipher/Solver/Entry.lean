import Decipher.Json.Record
import Decipher.Solver.Basic

/-!
# Reading solvers back

The readers of what `Solver.toEntry` and `SolverSet.toEntry` write, and of
anything else that has the same meaning: fields in another order, fields that are
not known, records as arrays.

A solver can be read from a text (`ofText`), where a fault has a place, or from a
value (`ofEntry`), where it has none.
-/

namespace Decipher

/-- Which of the two arguments an entry describes. -/
inductive ArgumentKind
  | parameter
  | preserved

namespace ArgumentKind

def names : List String := ["param", "preserved"]

/-- The kind of a name. -/
def ofName (name : String) : Except Mismatch ArgumentKind :=
  if name = "param" then .ok parameter
  else if name = "preserved" then .ok preserved
  else .error (.unknownVariant name names)

end ArgumentKind

namespace Argument

/-! ## From a text -/

open Json

/-- What messages call an argument. -/
def label : String := "adjacently tagged enum SolverArg"

/-- What messages call the content that a parameter has. -/
def parameterLabel : String := "unit variant SolverArg::Param"

/-- What messages call the name of a kind. -/
def kindLabel : String := "variant identifier"

/-- The name of a kind. -/
def readKindName (cs : List Char) : Reading ArgumentKind :=
  match readString kindLabel cs with
  | .error fault => .error fault
  | .ok (name, rest) =>
    match ArgumentKind.ofName name with
    | .ok kind => .ok (kind, rest)
    | .error m => .error (.here (.mismatch m) rest)

/-- An object with the name of a kind for its only key and `null` under it, after
its opening brace. -/
def readKindObject (cs : List Char) : Except Fault (ArgumentKind × List Char) := do
  match skipBlanks cs with
  | [] => .error (.next .endInObject [])
  | '"' :: rest =>
    let (kind, cs) ← readKindName ('"' :: rest)
    let ((), cs) ← readMember (readUnit "unit") cs
    match skipBlanks cs with
    | [] => .error (.here .endInObject [])
    | '}' :: rest => return (kind, rest)
    | rest => .error (.here .expectedValue rest)
  | '}' :: rest => .error (.next .expectedValue ('}' :: rest))
  | rest => .error (.next .keyNotString rest)

/-- A kind: its name, or an object with the name for its only key. -/
def readKind (nesting : Nat) (cs : List Char) : Reading ArgumentKind :=
  match skipBlanks cs with
  | [] => .error (.next .endInValue [])
  | '"' :: rest => readKindName ('"' :: rest)
  | '{' :: rest =>
    match nesting with
    | 0 => .error (.next .tooDeep ('{' :: rest))
    | _ + 1 => readKindObject rest
  | rest => .error (.next .expectedValue rest)

/-- The content of a parameter, which can only be `null`. -/
def readNothing (nesting : Nat) (cs : List Char) : Reading Unit :=
  let wrong (found : Found) : Cause := .mismatch (.invalidType found parameterLabel)
  match skipBlanks cs with
  | '[' :: rest =>
    match nesting with
    | 0 => .error (.next .tooDeep ('[' :: rest))
    | _ + 1 => .error (.here (wrong .sequence) (afterArray rest))
  | '{' :: rest =>
    match nesting with
    | 0 => .error (.next .tooDeep ('{' :: rest))
    | _ + 1 => .error (.here (wrong .map) (afterObject rest))
  | rest =>
    match readScalar rest with
    | .error fault => .error fault
    | .ok (.null, rest) => .ok ((), rest)
    | .ok (v, rest) => .error (.here (wrong (.ofJson v)) rest)

/-- The content of an argument of a known kind. -/
def readContent (nesting : Nat) (kind : ArgumentKind) (cs : List Char) : Reading Argument :=
  match kind with
  | .parameter => (readNothing nesting cs).map fun ((), rest) => (parameter, rest)
  | .preserved => (readValue nesting cs).map fun (node, rest) => (preserved node, rest)

/-- The argument of a known kind with a known content. -/
def ofContent (kind : ArgumentKind) (content : Json) : Except Mismatch Argument :=
  match kind, content with
  | .parameter, .null => .ok parameter
  | .parameter, v => .error (.invalidType (.ofJson v) parameterLabel)
  | .preserved, node => .ok (preserved node)

/-- The argument of a known kind without content. -/
def ofKind (kind : ArgumentKind) : Except Mismatch Argument :=
  match kind with
  | .parameter => .ok parameter
  | .preserved => .error (.missingField "node")

/-- A member of an argument: its kind or its content. -/
inductive Part
  | kind
  | content

def Part.name : Part → String
  | kind => "kind"
  | content => "node"

/-- Steps to the next member that is a part of the argument, and skips others.
The length of the first text bounds the number of members. -/
def nextPart : List Char → Bool → List Char → Reading (Option Part)
  | [], _, _ => .error (.next .endInObject [])
  | _ :: fuel, first, cs =>
    match nextMember first cs with
    | .error fault => .error fault
    | .ok none => .ok (none, cs)
    | .ok (some (key, cs)) =>
      if key = Part.kind.name then .ok (some .kind, cs)
      else if key = Part.content.name then .ok (some .content, cs)
      else
        match skipMember cs with
        | .error fault => .error fault
        | .ok cs => nextPart fuel false cs

/-- A part that was there before. -/
def repeated {α : Type} (part : Part) (cs : List Char) : Reading α :=
  .error (.pending (.duplicateField part.name) cs)

/-- Makes sure that no further part follows a whole argument. -/
def readEnd (argument : Argument) (cs : List Char) : Except Fault (Argument × List Char) := do
  match ← nextPart cs false cs with
  | (some part, cs) => repeated part cs
  | (none, cs) => return (argument, cs)

/-- An argument of which the kind comes first. -/
def readKindFirst (nesting : Nat) (cs : List Char) : Except Fault (Argument × List Char) := do
  let (kind, cs) ← readMember (readKind nesting) cs
  match ← nextPart cs false cs with
  | (some .kind, cs) => repeated .kind cs
  | (some .content, cs) =>
    let (argument, cs) ← readMember (readContent nesting kind) cs
    readEnd argument cs
  | (none, cs) =>
    match ofKind kind with
    | .ok argument => return (argument, cs)
    | .error m => .error (.pending m cs)

/-- An argument of which the content comes first.  What the content must be is
known only after the kind. -/
def readContentFirst (nesting : Nat) (cs : List Char) : Except Fault (Argument × List Char) := do
  let (content, cs) ← readMember (readValue nesting) cs
  match ← nextPart cs false cs with
  | (some .content, cs) => repeated .content cs
  | (some .kind, cs) =>
    let (kind, cs) ← readMember (readKind nesting) cs
    match ofContent kind content with
    | .ok argument => readEnd argument cs
    | .error m => .error (.pending m cs)
  | (none, cs) => .error (.pending (.missingField Part.kind.name) cs)

/-- The object form of an argument. -/
def readMembers (nesting : Nat) (cs : List Char) : Except Fault (Argument × List Char) := do
  match ← nextPart cs true cs with
  | (some .kind, cs) => readKindFirst nesting cs
  | (some .content, cs) => readContentFirst nesting cs
  | (none, cs) => .error (.pending (.missingField Part.kind.name) cs)

/-- The array form of an argument: the name of its kind and its content. -/
def readItems (nesting : Nat) (cs : List Char) : Except Fault (Argument × List Char) := do
  let (kind, cs) ← readElement 0 label readKindName cs
  readElement 1 label (readContent nesting kind) cs

/-- An argument. -/
def read (nesting : Nat) (cs : List Char) : Reading Argument :=
  readRecord label nesting readItems readMembers cs

/-! ## From a value -/

/-- A kind from a value. -/
def kindOfEntry : Json → Except Mismatch ArgumentKind
  | .string name => ArgumentKind.ofName name
  | .object [(name, v)] => do
    let kind ← ArgumentKind.ofName name
    match v with
    | .null => return kind
    | v => .error (.invalidType (.ofJson v) "unit")
  | .object _ => .error (.invalidValue .map "map with a single key")
  | v => .error (.invalidType (.ofJson v) "string or map")

/-- The kind that a value names. -/
def kindOfName : Json → Except Mismatch ArgumentKind
  | .string name => ArgumentKind.ofName name
  | v => .error (.invalidType (.ofJson v) kindLabel)

/-- What messages say of an array with too many items. -/
def tooManyLabel : String := "fewer elements in array"

/-- An argument from a value. -/
def ofEntry : Json → Except Mismatch Argument
  | .object members => do
    match Json.lookup Part.kind.name members with
    | none => .error (.missingField Part.kind.name)
    | some v =>
      let kind ← kindOfEntry v
      match Json.lookup Part.content.name members with
      | some content => ofContent kind content
      | none => ofKind kind
  | .array [] => .error (.invalidLength 0 label)
  | .array (v :: rest) => do
    let kind ← kindOfName v
    match rest with
    | [] => .error (.invalidLength 1 label)
    | content :: rest' =>
      let argument ← ofContent kind content
      if rest'.isEmpty then return argument
      else .error (.invalidLength (rest'.length + 2) tooManyLabel)
  | v => .error (.invalidType (.ofJson v) label)

end Argument

namespace Solver

open Json

/-! ## Solvers -/

def label : String := "struct CanonicalSolver"

def lengthLabel : String := "struct CanonicalSolver with 3 elements"

/-- What messages call the value of a field that holds a list. -/
def listLabel : String := "a sequence"

/-- The fields of a solver that are known so far. -/
structure Partial where
  sourceFunction : Option String := none
  callee : Option Json := none
  arguments : Option (List Argument) := none

/-- The arguments of a solver. -/
def readArguments (nesting : Nat) (cs : List Char) : Reading (List Argument) :=
  readList listLabel nesting Argument.read cs

/-- Takes one member of the object form. -/
def readMemberInto (nesting : Nat) (known : Partial) (key : String) (cs : List Char) :
    Reading Partial :=
  if key = "source_function" then
    (readField key known.sourceFunction (readString stringLabel) cs).map
      fun (s, cs) => ({ known with sourceFunction := some s }, cs)
  else if key = "callee" then
    (readField key known.callee (readValue nesting) cs).map
      fun (v, cs) => ({ known with callee := some v }, cs)
  else if key = "args" then
    (readField key known.arguments (readArguments nesting) cs).map
      fun (xs, cs) => ({ known with arguments := some xs }, cs)
  else (skipMember cs).map fun cs => (known, cs)

/-- The object form of a solver. -/
def readMembers (nesting : Nat) (cs : List Char) : Except Fault (Solver × List Char) := do
  let (known, cs) ← foldMembers (readMemberInto nesting) cs true {} cs
  let sourceFunction ← requireField "source_function" known.sourceFunction cs
  let callee ← requireField "callee" known.callee cs
  let arguments ← requireField "args" known.arguments cs
  return (⟨sourceFunction, callee, arguments⟩, cs)

/-- The array form of a solver. -/
def readItems (nesting : Nat) (cs : List Char) : Except Fault (Solver × List Char) := do
  let (sourceFunction, cs) ← readElement 0 lengthLabel (readString stringLabel) cs
  let (callee, cs) ← readElement 1 lengthLabel (readValue nesting) cs
  let (arguments, cs) ← readElement 2 lengthLabel (readArguments nesting) cs
  return (⟨sourceFunction, callee, arguments⟩, cs)

/-- A solver. -/
def read (nesting : Nat) (cs : List Char) : Reading Solver :=
  readRecord label nesting readItems readMembers cs

/-- The solver that a text holds. -/
def ofText (text : String) : Except String Solver :=
  (readWholeText (read maxNesting) text.toList).mapError (Fault.message text.toList)

/-- The arguments from a value. -/
def argumentsOfEntry : Json → Except Mismatch (List Argument)
  | .array items => items.mapM Argument.ofEntry
  | v => .error (.invalidType (.ofJson v) listLabel)

/-- A field of a value, if it is there. -/
def optionalField {α : Type} (members : List (String × Json)) (name : String)
    (ofEntry : Json → Except Mismatch α) : Except Mismatch (Option α) :=
  match Json.lookup name members with
  | none => .ok none
  | some v => (ofEntry v).map some

/-- A field that must be there. -/
def presentField {α : Type} (name : String) (known : Option α) : Except Mismatch α :=
  match known with
  | none => .error (.missingField name)
  | some x => .ok x

/-- A solver from a value.  Fields are looked at in the order of their names, and
missed in the order in which a solver lists them. -/
def ofEntry : Json → Except Mismatch Solver
  | .object members => do
    let arguments ← optionalField members "args" argumentsOfEntry
    let callee ← optionalField members "callee" .ok
    let sourceFunction ← optionalField members "source_function" stringOfValue
    return ⟨← presentField "source_function" sourceFunction, ← presentField "callee" callee,
      ← presentField "args" arguments⟩
  | .array [] => .error (.invalidLength 0 lengthLabel)
  | .array (v :: rest) => do
    let sourceFunction ← stringOfValue v
    match rest with
    | [] => .error (.invalidLength 1 lengthLabel)
    | [_] => .error (.invalidLength 2 lengthLabel)
    | callee :: v :: rest' =>
      let arguments ← argumentsOfEntry v
      if rest'.isEmpty then return ⟨sourceFunction, callee, arguments⟩
      else .error (.invalidLength (rest'.length + 3) Argument.tooManyLabel)
  | v => .error (.invalidType (.ofJson v) label)

end Solver

namespace SolverSet

open Json

/-! ## Sets of solvers -/

def label : String := "struct Solvers"

def lengthLabel : String := "struct Solvers with 1 element"

/-- Takes one member of the object form. -/
def readMemberInto (nesting : Nat) (known : Option Solver) (key : String) (cs : List Char) :
    Reading (Option Solver) :=
  if key = "sig" then
    (readField key known (Solver.read nesting) cs).map fun (s, cs) => (some s, cs)
  else (skipMember cs).map fun cs => (known, cs)

/-- The object form of a set of solvers. -/
def readMembers (nesting : Nat) (cs : List Char) : Except Fault (SolverSet × List Char) := do
  let (known, cs) ← foldMembers (readMemberInto nesting) cs true none cs
  let signature ← requireField "sig" known cs
  return (⟨signature⟩, cs)

/-- The array form of a set of solvers. -/
def readItems (nesting : Nat) (cs : List Char) : Except Fault (SolverSet × List Char) := do
  let (signature, cs) ← readElement 0 lengthLabel (Solver.read nesting) cs
  return (⟨signature⟩, cs)

/-- A set of solvers. -/
def read (nesting : Nat) (cs : List Char) : Reading SolverSet :=
  readRecord label nesting readItems readMembers cs

/-- The set of solvers that a text holds. -/
def ofText (text : String) : Except String SolverSet :=
  (readWholeText (read maxNesting) text.toList).mapError (Fault.message text.toList)

/-- A set of solvers from a value. -/
def ofEntry : Json → Except Mismatch SolverSet
  | .object members => do
    match Json.lookup "sig" members with
    | none => .error (.missingField "sig")
    | some v => return ⟨← Solver.ofEntry v⟩
  | .array [] => .error (.invalidLength 0 lengthLabel)
  | .array (v :: rest) => do
    let signature ← Solver.ofEntry v
    if rest.isEmpty then return ⟨signature⟩
    else .error (.invalidLength (rest.length + 1) Argument.tooManyLabel)
  | v => .error (.invalidType (.ofJson v) label)

end SolverSet

end Decipher
