import Decipher.Json.Record
import Decipher.Solver.Entry

/-!
# Values in files

What a file cache holds is text.  A kind of value can be cached in files if it has a
written form and a reader for it.
-/

namespace Decipher

/-- Values that can be kept as text. -/
class Storable (α : Type) where
  toText : α → String
  /-- The value that a text holds, or what is wrong with the text. -/
  ofText : String → Except String α

/-- A text is kept as a JSON string. -/
instance : Storable String where
  toText s := (Json.string s).text
  ofText text :=
    (Json.readWholeText (Json.readString Json.stringLabel) text.toList).mapError
      (Fault.message text.toList)

instance : Storable Json where
  toText := Json.text
  ofText := Json.parse

instance : Storable SolverSet where
  toText s := s.toEntry.text
  ofText := SolverSet.ofText

end Decipher
