import Decipher.Yaml.Fault

/-!
# YAML tokens

A token is a piece of the text that means something to the grammar.  The starts
and ends of collections that are shown by indentation alone are tokens too, as is
the key in front of a colon.
-/

namespace Decipher

namespace Yaml

/-- How a scalar is written. -/
inductive ScalarStyle
  | plain
  | singleQuoted
  | doubleQuoted
  | literal
  | folded
  deriving DecidableEq

inductive TokenKind
  | streamStart
  | streamEnd
  | version (major minor : Nat)
  | tagHandle (handle uri : String)
  | documentStart
  | documentEnd
  | blockSequenceStart
  | blockMappingStart
  | blockEnd
  | flowSequenceStart
  | flowSequenceEnd
  | flowMappingStart
  | flowMappingEnd
  | blockEntry
  | flowEntry
  | key
  | value
  | reference (name : String)
  | anchor (name : String)
  | tag (handle suffix : String)
  | scalar (text : String) (style : ScalarStyle)
  deriving DecidableEq

/-- A token and the places where it starts and stops. -/
structure Token where
  kind : TokenKind
  start : Mark
  stop : Mark

/-- The result of scanning something: what was scanned and the cursor behind it. -/
abbrev Scan (α : Type) := Except Fault (α × Cursor)

end Yaml

end Decipher
