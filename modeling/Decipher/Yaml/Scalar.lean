import Decipher.Binary64.Shortest
import Decipher.Json.Printer
import Decipher.Text.Quoted
import Decipher.Yaml.Event

/-!
# What a scalar means

A plain scalar without a tag means nothing, a truth value, a number or a text, by its
form; a quoted or block scalar is a text.  A tag of the standard asks for a meaning,
and a scalar can fail to have it.
-/

namespace Decipher

namespace Yaml

/-! ## Integers -/

/-- Whether a text starts with a sign. -/
def startsSigned : List Char → Bool
  | '+' :: _ => true
  | '-' :: _ => true
  | _ => false

/-- The value of digits in a base, if there is at least one and nothing else. -/
def digits? (base : Nat) (cs : List Char) : Option Nat :=
  let digit? (x : Char) : Option Nat := (Json.hexValue? x).filter (· < base)
  if cs.isEmpty then none
  else cs.foldlM (fun value x => (digit? x).map fun d => value * base + d) 0

/-- Whether digits are no number because of a zero in front. -/
def hasLeadingZero (cs : List Char) : Bool :=
  let digits := if startsSigned cs then cs.drop 1 else cs
  1 < digits.length && digits.head? == some '0' && digits.all Char.isDigit

/-- The bases that a number can name, by its second character. -/
def base? (x : Char) : Option Nat :=
  if x == 'x' then some 16 else if x == 'o' then some 8 else if x == 'b' then some 2 else none

/-- A natural below a limit, with or without a plus sign, in decimal or in a base that
it names. -/
def natural? (limit : Nat) (cs : List Char) : Option Nat :=
  let unsigned := match cs with
    | '+' :: rest => rest
    | _ => cs
  let found := match unsigned with
    | '0' :: x :: rest =>
      match base? x with
      | some base => digits? base rest
      | none => if hasLeadingZero cs then none else digits? 10 unsigned
    | _ => if hasLeadingZero cs then none else digits? 10 unsigned
  found.filter (· < limit)

/-- The magnitude, up to a limit, of a number with a minus sign, in decimal or in a
base that it names. -/
def negated? (limit : Nat) (cs : List Char) : Option Nat :=
  let found := match cs with
    | '-' :: '0' :: x :: rest =>
      match base? x with
      | some base => digits? base rest
      | none => if hasLeadingZero cs then none else digits? 10 ('0' :: x :: rest)
    | '-' :: rest => digits? 10 rest
    | _ => none
  found.filter (· ≤ limit)

/-! ## Binary64 numbers -/

/-- A number as YAML has it: the finite ones and three others. -/
inductive Real
  | finite (x : Binary64)
  | infinite (negative : Bool)
  | undefined

/-- The parts of a decimal as written: its digits as one number, and the exponent of
the last of them. -/
structure DecimalText where
  negative : Bool
  digits : List Char
  exponent : Int

/-- The exponent behind a number, after its letter. -/
def exponentText? (cs : List Char) : Option Int :=
  match cs with
  | '+' :: rest => (digits? 10 rest).map Int.ofNat
  | '-' :: rest => (digits? 10 rest).map fun n => -(n : Int)
  | _ => (digits? 10 cs).map Int.ofNat

/-- A decimal without its sign: digits, of which some may stand behind a point, and
perhaps an exponent. -/
def decimalText? (negative : Bool) (cs : List Char) : Option DecimalText :=
  let whole := cs.takeWhile Char.isDigit
  let rest := cs.dropWhile Char.isDigit
  let (fraction, rest) := match rest with
    | '.' :: rest => (rest.takeWhile Char.isDigit, rest.dropWhile Char.isDigit)
    | _ => ([], rest)
  let digits := whole ++ fraction
  if digits.isEmpty then none
  else
    let scale : Int := -(fraction.length : Int)
    match rest with
    | [] => some ⟨negative, digits, scale⟩
    | x :: rest =>
      if x == 'e' || x == 'E' then
        (exponentText? rest).map fun exponent => ⟨negative, digits, scale + exponent⟩
      else none

/-- An exponent beyond which, either way, no finite number but zero has its first
digit. -/
def exponentBound : Int := 400

/-- The binary64 number nearest to a decimal, if it is finite. -/
def DecimalText.nearest? (t : DecimalText) : Option Binary64 :=
  let digits := t.digits.dropWhile (· == '0')
  let value := (digits? 10 digits).getD 0
  let size : Int := digits.length + t.exponent
  if value = 0 || size < -exponentBound then some (Binary64.zero t.negative)
  else if exponentBound < size then none
  else
    Binary64.ofRatio t.negative (value * Nat.pow 10 t.exponent.toNat)
      (Nat.pow 10 (-t.exponent).toNat)

/-- A finite decimal with or without a sign. -/
def finite? (cs : List Char) : Option Binary64 :=
  let text? := match cs with
    | '+' :: rest => decimalText? false rest
    | '-' :: rest => decimalText? true rest
    | _ => decimalText? false cs
  text?.bind DecimalText.nearest?

/-- A number as YAML writes it. -/
def real? (text : String) : Option Real :=
  if [".inf", ".Inf", ".INF", "+.inf", "+.Inf", "+.INF"].contains text then some (.infinite false)
  else if ["-.inf", "-.Inf", "-.INF"].contains text then some (.infinite true)
  else if [".nan", ".NaN", ".NAN"].contains text then some .undefined
  else
    match text.toList with
    | '+' :: rest => if startsSigned rest then none else (finite? rest).map .finite
    | cs => (finite? cs).map .finite

/-- A number in positional decimal with a point. -/
def Real.label : Real → String
  | finite x =>
    let magnitude := String.ofList x.shortest.plainText
    if x.negative then "-" ++ magnitude else magnitude
  | infinite false => "inf"
  | infinite true => "-inf"
  | undefined => "NaN"

/-! ## Meanings -/

/-- What a scalar means. -/
inductive Meaning
  | nothing
  | bool (b : Bool)
  /-- An integer, and the name of the type that is needed to hold it if that is wider
  than 64 bits. -/
  | integer (n : Int) (wide : Option String)
  | real (x : Real)
  | text (s : String)

namespace Meaning

/-- A meaning as messages name it. -/
def label : Meaning → String
  | nothing => "unit value"
  | bool true => "boolean `true`"
  | bool false => "boolean `false`"
  | integer n none => "integer `" ++ String.ofList (integerText n) ++ "`"
  | integer n (some type) => "integer `" ++ String.ofList (integerText n) ++ "` as " ++ type
  | real x => "floating point `" ++ x.label ++ "`"
  | text s => "string " ++ quote s

/-- The ways to write nothing. -/
def isNothing (s : String) : Bool := ["null", "Null", "NULL", "~"].contains s

/-- The ways to write a truth value. -/
def bool? (s : String) : Option Bool :=
  if ["true", "True", "TRUE"].contains s then some true
  else if ["false", "False", "FALSE"].contains s then some false
  else none

/-- An integer in the narrowest type that holds it. -/
def integer? (s : String) : Option Meaning :=
  let cs := s.toList
  ((natural? (Nat.pow 2 64) cs).map fun n => integer n none) <|>
    ((negated? (Nat.pow 2 63) cs).map fun n => integer (-n) none) <|>
    ((natural? (Nat.pow 2 128) cs).map fun n => integer n (some "u128")) <|>
    ((negated? (Nat.pow 2 127) cs).map fun n => integer (-n) (some "i128"))

/-- What a plain scalar means by its form. -/
def ofPlain (s : String) : Meaning :=
  if s.isEmpty || isNothing s then nothing
  else
    match bool? s with
    | some b => bool b
    | none =>
      match integer? s with
      | some m => m
      | none =>
        if hasLeadingZero s.toList then text s
        else
          match real? s with
          | some x => real x
          | none => text s

end Meaning

namespace Scalar

/-- The name of a tag of the standard. -/
def standardTag (name : String) : String := "tag:yaml.org,2002:" ++ name

/-- What a scalar means, or what its tag asked for in vain. -/
def meaning (s : Scalar) : Except String Meaning :=
  match s.tag with
  | none => .ok (if s.style = .plain then .ofPlain s.text else .text s.text)
  | some tag =>
    if tag = standardTag "bool" then
      match Meaning.bool? s.text with
      | some b => .ok (.bool b)
      | none => .error "a boolean"
    else if tag = standardTag "int" then
      match Meaning.integer? s.text with
      | some m => .ok m
      | none => .error "an integer"
    else if tag = standardTag "float" then
      match real? s.text with
      | some x => .ok (.real x)
      | none => .error "a float"
    else if tag = standardTag "null" then
      if Meaning.isNothing s.text then .ok .nothing else .error "null"
    else if tag.startsWith "!" && s.style = .plain then .ok (.ofPlain s.text)
    else .ok (.text s.text)

/-- The natural below a limit that a scalar stands for: a plain one by its form, a
literal block only if its tag asks for an integer. -/
def natural? (limit : Nat) (s : Scalar) : Option Nat :=
  let numeric := s.style = .plain ∨ (s.style = .literal ∧ s.tag = some (standardTag "int"))
  if numeric then Yaml.natural? limit s.text.toList else none

end Scalar

end Yaml

end Decipher
