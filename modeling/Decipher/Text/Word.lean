/-!
# Words

A word is a natural number of 64 bits.  `word?` reads one from its decimal digits.
-/

namespace Decipher

/-- The number of words there are. -/
def wordLimit : Nat := Nat.pow 2 64

/-- The word that ASCII digits write, with or without a plus sign. -/
def word? (cs : List Char) : Option Nat :=
  let digits := match cs with
    | '+' :: rest => rest
    | _ => cs
  if digits.isEmpty || !digits.all Char.isDigit then none
  else
    let value := digits.foldl (fun value c => value * 10 + (c.toNat - 48)) 0
    if value < wordLimit then some value else none

end Decipher
