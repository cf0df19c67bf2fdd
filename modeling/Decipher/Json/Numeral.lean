import Decipher.Json.Fault

/-!
# Reading a number

A number without a fraction or an exponent is an integer if it fits 64 bits.  Any
other one is a binary64 number, and it is not the nearest one to the decimal as
written: the leading digits that fit a 64-bit word make a significand, further
digits only count, and the significand is then multiplied or divided once by a
power of ten (`scale`), with one rounding for each step.
-/

namespace Decipher

namespace Numeral

def isDigit (c : Char) : Bool := '0' ≤ c && c ≤ '9'

def digitValue (c : Char) : Nat := c.toNat - 48

/-- Whether the text goes on with a digit. -/
def startsWithDigit : List Char → Bool
  | c :: _ => isDigit c
  | [] => false

/-- Takes leading digits into a significand and counts them, up to the first one
that would carry it past a 64-bit word. -/
def takeSignificand (significand taken : Nat) : List Char → Nat × Nat × List Char
  | [] => (significand, taken, [])
  | c :: rest =>
    if isDigit c && significand * 10 + digitValue c < Nat.pow 2 64 then
      takeSignificand (significand * 10 + digitValue c) (taken + 1) rest
    else (significand, taken, c :: rest)

/-- Drops leading digits and counts them. -/
def dropDigits (count : Nat) : List Char → Nat × List Char
  | [] => (count, [])
  | c :: rest => if isDigit c then dropDigits (count + 1) rest else (count, c :: rest)

/-- The greatest exponent that is taken at its word. -/
def maxExponent : Nat := Nat.pow 2 31 - 1

/-- Takes leading digits into an exponent.  The answer tells whether the exponent
stayed within bounds; if not, the rest is what follows the digit that went past
them. -/
def takeExponent (exponent : Nat) : List Char → Bool × Nat × List Char
  | [] => (true, exponent, [])
  | c :: rest =>
    if isDigit c then
      let exponent' := exponent * 10 + digitValue c
      if maxExponent < exponent' then (false, exponent', rest) else takeExponent exponent' rest
    else (true, exponent, c :: rest)

/-- Divides by the greatest power of ten, `times` times or until nothing is
left. -/
def shrink : Nat → Binary64 → Binary64
  | 0, x => x
  | times + 1, x =>
    if x.isZero then x
    else shrink times ((x.div (.pow10 Binary64.maxPow10)).getD (.zero false))

/-- A significand times a power of ten, rounded at each step; `none` if it is not
finite. -/
def scale (negative : Bool) (significand : Nat) (exponent : Int) : Option Binary64 :=
  let x := Binary64.ofNat false significand
  let signed (y : Binary64) : Binary64 := { y with negative := negative }
  if x.isZero then some (signed x)
  else if 0 ≤ exponent then
    if exponent ≤ Binary64.maxPow10 then (x.mul (.pow10 exponent.toNat)).map signed
    else none
  else
    let magnitude := (-exponent).toNat
    let times := (magnitude - 1) / Binary64.maxPow10
    let small := shrink times x
    if small.isZero then some (signed small)
    else (small.div (.pow10 (magnitude - times * Binary64.maxPow10))).map signed

/-- A scaled significand as a number, at the end of its text. -/
def finish (negative : Bool) (significand : Nat) (exponent : Int) (rest : List Char) :
    Reading Number :=
  match scale negative significand exponent with
  | some x => .ok (.real x, rest)
  | none => .error (.here .numberOutOfRange rest)

/-- What follows the letter of an exponent. -/
def readExponent (negative : Bool) (significand : Nat) (start : Int) (cs : List Char) :
    Reading Number :=
  let (down, cs) := match cs with
    | '+' :: rest => (false, rest)
    | '-' :: rest => (true, rest)
    | _ => (false, cs)
  match cs with
  | [] => .error (.here .endInValue [])
  | c :: rest =>
    if isDigit c then
      match takeExponent (digitValue c) rest with
      | (true, exponent, rest) =>
        finish negative significand (if down then start - exponent else start + exponent) rest
      | (false, _, rest) =>
        if significand ≠ 0 ∧ !down then .error (.here .numberOutOfRange rest)
        else .ok (.real (.zero negative), (dropDigits 0 rest).2)
    else .error (.next .invalidNumber (c :: rest))

/-- An exponent if there is one, else the end of the number. -/
def readTail (negative : Bool) (significand : Nat) (exponent : Int) : List Char → Reading Number
  | 'e' :: rest => readExponent negative significand exponent rest
  | 'E' :: rest => readExponent negative significand exponent rest
  | rest => finish negative significand exponent rest

/-- What follows the decimal point. -/
def readFraction (negative : Bool) (significand : Nat) (exponent : Int) (cs : List Char) :
    Reading Number :=
  let (significand', taken, rest) := takeSignificand significand 0 cs
  if startsWithDigit rest then
    readTail negative significand' (exponent - taken) (dropDigits 0 rest).2
  else if taken = 0 then
    match rest with
    | [] => .error (.next .endInValue [])
    | _ => .error (.next .invalidNumber rest)
  else readTail negative significand' (exponent - taken) rest

/-- What follows the digits of a whole part that fits a 64-bit word. -/
def readWhole (negative : Bool) (significand : Nat) : List Char → Reading Number
  | '.' :: rest => readFraction negative significand 0 rest
  | 'e' :: rest => readExponent negative significand 0 rest
  | 'E' :: rest => readExponent negative significand 0 rest
  | rest =>
    if !negative then .ok (.integer significand, rest)
    else if significand = 0 ∨ Nat.pow 2 63 < significand then
      .ok (.real (.ofNat true significand), rest)
    else .ok (.integer (-significand), rest)

/-- What follows the digits of a whole part of which some were only counted. -/
def readLong (negative : Bool) (significand : Nat) (dropped : Nat) : List Char → Reading Number
  | '.' :: rest => readFraction negative significand dropped rest
  | rest => readTail negative significand dropped rest

/-- A number, after its sign. -/
def read (negative : Bool) : List Char → Reading Number
  | [] => .error (.here .endInValue [])
  | c :: rest =>
    if c = '0' then
      if startsWithDigit rest then .error (.next .invalidNumber rest)
      else readWhole negative 0 rest
    else if isDigit c then
      let (significand, _, rest) := takeSignificand (digitValue c) 0 rest
      if startsWithDigit rest then
        let (dropped, rest) := dropDigits 0 rest
        readLong negative significand dropped rest
      else readWhole negative significand rest
    else .error (.next .invalidNumber (c :: rest))

/-! ## Skipping a number

A number that nobody asked for is only checked for its form. -/

/-- The exponent of a skipped number, after its letter. -/
def skipExponent (cs : List Char) : Except Fault (List Char) :=
  let cs := match cs with
    | '+' :: rest => rest
    | '-' :: rest => rest
    | _ => cs
  match cs with
  | [] => .error (.here .invalidNumber [])
  | c :: rest =>
    if isDigit c then .ok (dropDigits 0 rest).2 else .error (.next .invalidNumber (c :: rest))

/-- What follows the whole part or the fraction of a skipped number. -/
def skipTail : List Char → Except Fault (List Char)
  | 'e' :: rest => skipExponent rest
  | 'E' :: rest => skipExponent rest
  | rest => .ok rest

/-- What follows the whole part of a skipped number. -/
def skipWhole : List Char → Except Fault (List Char)
  | '.' :: rest =>
    if startsWithDigit rest then skipTail (dropDigits 0 rest).2
    else .error (.next .invalidNumber rest)
  | rest => skipTail rest

/-- A number that nobody asked for, after its sign. -/
def skip : List Char → Except Fault (List Char)
  | [] => .error (.here .invalidNumber [])
  | c :: rest =>
    if c = '0' then
      if startsWithDigit rest then .error (.next .invalidNumber rest) else skipWhole rest
    else if isDigit c then skipWhole (dropDigits 0 rest).2
    else .error (.next .invalidNumber (c :: rest))

end Numeral

end Decipher
