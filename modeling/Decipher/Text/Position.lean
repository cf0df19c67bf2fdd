/-!
# Places in a text

A place is given to the user as a line and a column, both derived from the
number of bytes that come before it when the text is written in UTF-8.  A column
counts bytes, so a place can fall inside a character.
-/

namespace Decipher

/-- A line, counted from one, and the number of bytes before a place on it. -/
structure Position where
  line : Nat
  column : Nat
  deriving DecidableEq

/-- The length of a text in UTF-8. -/
def byteCount : List Char → Nat
  | [] => 0
  | c :: cs => c.utf8Size + byteCount cs

@[simp] theorem byteCount_nil : byteCount [] = 0 := rfl

@[simp] theorem byteCount_cons (c : Char) (cs : List Char) :
    byteCount (c :: cs) = c.utf8Size + byteCount cs := rfl

theorem byteCount_append (cs ds : List Char) :
    byteCount (cs ++ ds) = byteCount cs + byteCount ds := by
  induction cs with
  | nil => simp
  | cons c cs ih => simp [ih, Nat.add_assoc]

theorem utf8ByteSize_ofList (cs : List Char) : (String.ofList cs).utf8ByteSize = byteCount cs := by
  induction cs with
  | nil => rfl
  | cons c cs ih =>
    have first : (String.ofList [c]).utf8ByteSize = c.utf8Size := by
      rw [← String.size_toByteArray, String.toByteArray_ofList, List.utf8Encode_singleton,
        List.size_toByteArray, String.length_utf8EncodeChar]
    rw [← List.singleton_append, String.ofList_append, String.utf8ByteSize_append, ih, first,
      List.singleton_append, byteCount_cons]

namespace Position

/-- The place before any text. -/
def start : Position := ⟨1, 0⟩

/-- The place after `bytes` further bytes of the text. -/
def advance (p : Position) : List Char → Nat → Position
  | [], _ => p
  | _, 0 => p
  | c :: cs, bytes + 1 =>
    if c = '\n' then advance ⟨p.line + 1, 0⟩ cs bytes
    else if c.utf8Size ≤ bytes + 1 then
      advance ⟨p.line, p.column + c.utf8Size⟩ cs (bytes + 1 - c.utf8Size)
    else ⟨p.line, p.column + (bytes + 1)⟩

/-- The place of a text that has `left` bytes after it. -/
def before (text : List Char) (left : Nat) : Position :=
  start.advance text (byteCount text - left)

/-- How a place is named in a message. -/
def label (p : Position) : String :=
  "line " ++ toString p.line ++ " column " ++ toString p.column

end Position

end Decipher
