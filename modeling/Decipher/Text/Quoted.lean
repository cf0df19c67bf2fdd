import Decipher.Text.Visible

/-!
# Quoted text in messages

`quote` shows a string between double quotes so that every character of it can
be told: quotes and backslashes are escaped, the usual control characters have
their short escapes, and any other character that would not show on its own is
given by its code point in hexadecimal.
-/

namespace Decipher

/-- The digits of a natural in lower case hexadecimal. -/
def hexText (n : Nat) : String := String.ofList (Nat.toDigits 16 n)

/-- A character as it stands in a quoted text. -/
def quoteChar (c : Char) : String :=
  if c = '\x00' then "\\0"
  else if c = '\t' then "\\t"
  else if c = '\r' then "\\r"
  else if c = '\n' then "\\n"
  else if c = '\\' then "\\\\"
  else if c = '"' then "\\\""
  else if isExtender c || !isShown c then "\\u\x7b" ++ hexText c.toNat ++ "\x7d"
  else String.singleton c

/-- A string between quotes, as messages show it. -/
def quote (s : String) : String :=
  "\"" ++ String.join (s.toList.map quoteChar) ++ "\""

end Decipher
