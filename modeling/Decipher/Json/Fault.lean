import Decipher.Json.Printer
import Decipher.Text.Position
import Decipher.Text.Quoted

/-!
# What can be wrong with a JSON text

A text is refused for its form (`Cause`) or because the value in it is not of the
kind that was asked for (`Mismatch`).  A fault found while reading knows where the
reading stood, as the number of bytes then left; the place shown to the user is
computed from that and the whole text.
-/

namespace Decipher

/-- The kind of value that was found where another was expected. -/
inductive Found
  | null
  | bool (b : Bool)
  | number (n : Number)
  | string (s : String)
  | sequence
  | map

namespace Found

/-- The kind of a value. -/
def ofJson : Json → Found
  | .null => null
  | .bool b => bool b
  | .number n => number n
  | .string s => string s
  | .array _ => sequence
  | .object _ => map

def label : Found → String
  | null => "null"
  | bool true => "boolean `true`"
  | bool false => "boolean `false`"
  | number (.integer n) => "integer `" ++ String.ofList (integerText n) ++ "`"
  | number (.real x) => "floating point `" ++ String.ofList x.text ++ "`"
  | string s => "string " ++ quote s
  | sequence => "sequence"
  | map => "map"

end Found

/-- The ways in which a value can fail to be of the kind that was asked for. -/
inductive Mismatch
  | invalidType (found : Found) (expected : String)
  | invalidValue (found : Found) (expected : String)
  | invalidLength (length : Nat) (expected : String)
  | missingField (name : String)
  | duplicateField (name : String)
  | unknownVariant (name : String) (variants : List String)

namespace Mismatch

/-- A list of alternatives in words. -/
def alternatives (names : List String) : String :=
  match names.map fun name => "`" ++ name ++ "`" with
  | [] => "nothing"
  | [a] => a
  | [a, b] => a ++ " or " ++ b
  | all => "one of " ++ ", ".intercalate all

def message : Mismatch → String
  | invalidType found expected =>
    "invalid type: " ++ found.label ++ ", expected " ++ expected
  | invalidValue found expected =>
    "invalid value: " ++ found.label ++ ", expected " ++ expected
  | invalidLength length expected =>
    "invalid length " ++ toString length ++ ", expected " ++ expected
  | missingField name => "missing field `" ++ name ++ "`"
  | duplicateField name => "duplicate field `" ++ name ++ "`"
  | unknownVariant name variants =>
    "unknown variant `" ++ name ++ "`, expected " ++ alternatives variants

end Mismatch

/-- Why a text is refused. -/
inductive Cause
  | endInValue
  | endInArray
  | endInObject
  | endInString
  | expectedValue
  | expectedWord
  | expectedColon
  | expectedCommaOrBracket
  | expectedCommaOrBrace
  | keyNotString
  | trailingComma
  | trailingCharacters
  | invalidNumber
  | numberOutOfRange
  | invalidEscape
  | controlCharacter
  | loneSurrogate
  | unpairedSurrogate
  | tooDeep
  | mismatch (m : Mismatch)

namespace Cause

def message : Cause → String
  | endInValue => "EOF while parsing a value"
  | endInArray => "EOF while parsing a list"
  | endInObject => "EOF while parsing an object"
  | endInString => "EOF while parsing a string"
  | expectedValue => "expected value"
  | expectedWord => "expected ident"
  | expectedColon => "expected `:`"
  | expectedCommaOrBracket => "expected `,` or `]`"
  | expectedCommaOrBrace => "expected `,` or `\x7d`"
  | keyNotString => "key must be a string"
  | trailingComma => "trailing comma"
  | trailingCharacters => "trailing characters"
  | invalidNumber => "invalid number"
  | numberOutOfRange => "number out of range"
  | invalidEscape => "invalid escape"
  | controlCharacter => "control character (\\u0000-\\u001F) found while parsing a string"
  | loneSurrogate => "lone leading surrogate in hex escape"
  | unpairedSurrogate => "unexpected end of hex escape"
  | tooDeep => "recursion limit exceeded"
  | mismatch m => m.message

end Cause

/-- Where the reading stood when a fault was found.  A fault of form is `settled`
at a number of bytes left.  A mismatch is found in a value, not at a character: it
stays `pending` at the rest of the text until the enclosing brackets settle it. -/
inductive Place
  | settled (left : Nat)
  | pending (rest : List Char)

/-- A cause and its place. -/
structure Fault where
  cause : Cause
  place : Place

namespace Fault

/-- A fault noticed after the last character read. -/
def here (cause : Cause) (rest : List Char) : Fault :=
  ⟨cause, .settled (byteCount rest)⟩

/-- A fault of the character that would be read next: one byte of it counts as
read. -/
def next (cause : Cause) (rest : List Char) : Fault :=
  ⟨cause, .settled (byteCount rest - 1)⟩

/-- A mismatch that is still to be settled. -/
def pending (m : Mismatch) (rest : List Char) : Fault :=
  ⟨.mismatch m, .pending rest⟩

/-- Settles a pending fault at the text that `close` leaves of its own. -/
def settle (close : List Char → List Char) (fault : Fault) : Fault :=
  match fault.place with
  | .settled _ => fault
  | .pending rest => here fault.cause (close rest)

/-- The bytes left at a fault. -/
def left (fault : Fault) : Nat :=
  match fault.place with
  | .settled left => left
  | .pending rest => byteCount rest

/-- A fault in a text, in words. -/
def message (text : List Char) (fault : Fault) : String :=
  fault.cause.message ++ " at " ++ (Position.before text fault.left).label

end Fault

/-- The result of reading something at the start of a text: what was read and the
rest, or a fault. -/
abbrev Reading (α : Type) := Except Fault (α × List Char)

end Decipher
