import Decipher.Binary64.Shortest
import Decipher.Json.Value

/-!
# JSON text

Every writer puts its text in front of a given rest, so that what is written and
what follows stay apart in a statement about reading it back.  `Json.write` is
the compact form, with no blanks; `Json.writeIndented` breaks lines and indents
by two columns.  Both write members in the order in which an object holds them.
-/

namespace Decipher

/-! ## Numbers -/

/-- The least exponent of a first digit for which a number is written without
an exponent. -/
def RealText.minPlain : Int := -5

/-- The least exponent of a first digit above those for which a number is
written without an exponent. -/
def RealText.endPlain : Int := 16

/-- A decimal with its point in place and at least one digit on either side. -/
def Decimal.plainText (x : Decimal) : List Char :=
  let digits := Decimal.digitChars x.digits
  if 0 ≤ x.exponent then
    digits ++ List.replicate x.exponent.toNat '0' ++ ['.', '0']
  else
    let places := (-x.exponent).toNat
    if digits.length ≤ places then
      ['0', '.'] ++ List.replicate (places - digits.length) '0' ++ digits
    else
      digits.take (digits.length - places) ++ '.' :: digits.drop (digits.length - places)

/-- A decimal with one digit before the point and a signed exponent; the point
is left out where no digit would follow it. -/
def Decimal.scientificText (x : Decimal) : List Char :=
  let digits := Decimal.digitChars x.digits
  let exponent := x.leadExponent
  let fraction := match digits.drop 1 with
    | [] => []
    | ds => '.' :: ds
  digits.take 1 ++ fraction ++ ['e', if exponent < 0 then '-' else '+'] ++
    Decimal.digitChars exponent.natAbs

/-- A binary64 number by its shortest digits. -/
def Binary64.text (x : Binary64) : List Char :=
  let d := x.shortest
  let magnitude :=
    if RealText.minPlain ≤ d.leadExponent && d.leadExponent < RealText.endPlain then d.plainText
    else d.scientificText
  if x.negative then '-' :: magnitude else magnitude

/-- An integer in decimal. -/
def integerText (n : Int) : List Char :=
  if n < 0 then '-' :: Decimal.digitChars n.natAbs else Decimal.digitChars n.natAbs

def Number.text : Number → List Char
  | .integer n => integerText n
  | .real x => x.text

/-! ## Strings -/

namespace Json

/-- A hexadecimal digit, in lower case. -/
def hexDigit (n : Nat) : Char :=
  if n < 10 then Char.ofNat (48 + n) else Char.ofNat (87 + n)

/-- A character as it stands between quotes: quotes, backslashes and control
characters are escaped and nothing else is. -/
def escape (c : Char) : List Char :=
  if c = '"' then ['\\', '"']
  else if c = '\\' then ['\\', '\\']
  else if c = '\x08' then ['\\', 'b']
  else if c = '\x0c' then ['\\', 'f']
  else if c = '\n' then ['\\', 'n']
  else if c = '\r' then ['\\', 'r']
  else if c = '\t' then ['\\', 't']
  else if c.toNat < 32 then
    ['\\', 'u', '0', '0', hexDigit (c.toNat / 16), hexDigit (c.toNat % 16)]
  else [c]

/-- The characters of a string, escaped, then the closing quote. -/
def writeBody : List Char → List Char → List Char
  | [], rest => '"' :: rest
  | c :: cs, rest => escape c ++ writeBody cs rest

/-- A string between quotes. -/
def writeString (s : String) (rest : List Char) : List Char :=
  '"' :: writeBody s.toList rest

/-! ## Compact form -/

mutual

/-- A value in the compact form, in front of `rest`. -/
def write : Json → List Char → List Char
  | null, rest => 'n' :: 'u' :: 'l' :: 'l' :: rest
  | bool true, rest => 't' :: 'r' :: 'u' :: 'e' :: rest
  | bool false, rest => 'f' :: 'a' :: 'l' :: 's' :: 'e' :: rest
  | number n, rest => n.text ++ rest
  | string s, rest => writeString s rest
  | array [], rest => '[' :: ']' :: rest
  | array (x :: xs), rest => '[' :: write x (writeItems xs rest)
  | object [], rest => '{' :: '}' :: rest
  | object ((k, v) :: ms), rest => '{' :: writeString k (':' :: write v (writeMembers ms rest))

/-- The items after the first, each behind a comma, then the closing bracket. -/
def writeItems : List Json → List Char → List Char
  | [], rest => ']' :: rest
  | x :: xs, rest => ',' :: write x (writeItems xs rest)

/-- The members after the first, each behind a comma, then the closing brace. -/
def writeMembers : List (String × Json) → List Char → List Char
  | [], rest => '}' :: rest
  | (k, v) :: ms, rest => ',' :: writeString k (':' :: write v (writeMembers ms rest))

end

/-- A value as text, in the compact form. -/
def text (v : Json) : String := String.ofList (v.write [])

/-! ## Indented form -/

/-- A line break and the indentation of a level. -/
def lineBreak (level : Nat) (rest : List Char) : List Char :=
  '\n' :: (List.replicate (2 * level) ' ' ++ rest)

mutual

/-- A value in the indented form; `level` is that of the line it starts on. -/
def writeIndented (level : Nat) : Json → List Char → List Char
  | array (x :: xs), rest =>
    '[' :: lineBreak (level + 1) (writeIndented (level + 1) x (writeIndentedItems level xs rest))
  | object ((k, v) :: ms), rest =>
    '{' :: lineBreak (level + 1) (writeString k (':' :: ' ' ::
      writeIndented (level + 1) v (writeIndentedMembers level ms rest)))
  | v, rest => write v rest

/-- The items after the first, each on its own line, then the closing bracket. -/
def writeIndentedItems (level : Nat) : List Json → List Char → List Char
  | [], rest => lineBreak level (']' :: rest)
  | x :: xs, rest =>
    ',' :: lineBreak (level + 1) (writeIndented (level + 1) x (writeIndentedItems level xs rest))

/-- The members after the first, each on its own line, then the closing brace. -/
def writeIndentedMembers (level : Nat) : List (String × Json) → List Char → List Char
  | [], rest => lineBreak level ('}' :: rest)
  | (k, v) :: ms, rest =>
    ',' :: lineBreak (level + 1) (writeString k (':' :: ' ' ::
      writeIndented (level + 1) v (writeIndentedMembers level ms rest)))

end

/-- A value as text, in the indented form. -/
def indentedText (v : Json) : String := String.ofList (v.writeIndented 0 [])

end Json

end Decipher
