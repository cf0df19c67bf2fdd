/-!
# Bytes as text

`decode?` takes bytes that are valid UTF-8 as text.  `decodeLossy` takes any
bytes: a longest run that starts a character but does not finish it, or a byte
that starts none, becomes one replacement character.
-/

namespace Decipher

namespace Utf8

/-- The text of valid UTF-8. -/
def decode? (bytes : ByteArray) : Option String := String.fromUTF8? bytes

/-- The bytes of a text. -/
def encode (s : String) : ByteArray := s.toUTF8

/-- What stands for bytes that are no text. -/
def replacement : Char := '\uFFFD'

/-- What the first byte of a character says: the number of bytes to follow, the
bits of the code point that it holds, and the range of the byte after it. -/
def lead? (b : UInt8) : Option (Nat × Nat × Nat × Nat) :=
  let n := b.toNat
  if n < 0x80 then some (0, n, 0x80, 0xBF)
  else if n < 0xC2 then none
  else if n < 0xE0 then some (1, n - 0xC0, 0x80, 0xBF)
  else if n = 0xE0 then some (2, 0, 0xA0, 0xBF)
  else if n = 0xED then some (2, 0xD, 0x80, 0x9F)
  else if n < 0xF0 then some (2, n - 0xE0, 0x80, 0xBF)
  else if n = 0xF0 then some (3, 0, 0x90, 0xBF)
  else if n < 0xF4 then some (3, n - 0xF0, 0x80, 0xBF)
  else if n = 0xF4 then some (3, 4, 0x80, 0x8F)
  else none

/-- The character of which `code` was read and `count` bytes are to follow, with
the rest; no character if one of the bytes does not follow. -/
def continue? : Nat → Nat → Nat → Nat → List UInt8 → Option Char × List UInt8
  | 0, code, _, _, rest => (some (Char.ofNat code), rest)
  | _ + 1, _, _, _, [] => (none, [])
  | count + 1, code, low, high, b :: rest =>
    if low ≤ b.toNat ∧ b.toNat ≤ high then
      continue? count (code * 64 + (b.toNat - 0x80)) 0x80 0xBF rest
    else (none, b :: rest)

/-- The characters of a list of bytes.  The fuel bounds their number. -/
def lossyChars : Nat → List UInt8 → List Char
  | 0, _ => []
  | _, [] => []
  | fuel + 1, b :: rest =>
    match lead? b with
    | none => replacement :: lossyChars fuel rest
    | some (count, code, low, high) =>
      let (c, rest) := continue? count code low high rest
      c.getD replacement :: lossyChars fuel rest

/-- The text of any bytes. -/
def decodeLossy (bytes : ByteArray) : String :=
  match decode? bytes with
  | some s => s
  | none => String.ofList (lossyChars bytes.size bytes.toList)

end Utf8

end Decipher
