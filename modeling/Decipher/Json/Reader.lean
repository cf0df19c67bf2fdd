import Decipher.Json.Numeral

/-!
# Reading JSON text

`readValue` reads one value from the start of a text; `parse` reads a text that
holds one value and nothing else.  The recursion is on the number of brackets
that may still be opened, of which a text may nest 127.

Array and object readers are written once, over the reader of an item or of a
member, and serve the typed readers too: `nextItem` and `nextMember` step from
one element to the next, `closeArray` and `closeObject` take the closing bracket.
-/

namespace Decipher

namespace Json

/-- The characters that may stand between tokens. -/
def isBlank (c : Char) : Bool := c == ' ' || c == '\n' || c == '\t' || c == '\r'

def skipBlanks (cs : List Char) : List Char := cs.dropWhile isBlank

/-- The rest of a word of which the first letter was read. -/
def readWord : List Char → List Char → Except Fault (List Char)
  | [], rest => .ok rest
  | _ :: _, [] => .error (.here .endInValue [])
  | w :: word, c :: rest =>
    if c = w then readWord word rest else .error (.next .expectedWord (c :: rest))

/-! ## Strings -/

/-- The value of a hexadecimal digit, in either case. -/
def hexValue? (c : Char) : Option Nat :=
  if '0' ≤ c && c ≤ '9' then some (c.toNat - 48)
  else if 'a' ≤ c && c ≤ 'f' then some (c.toNat - 87)
  else if 'A' ≤ c && c ≤ 'F' then some (c.toNat - 55)
  else none

/-- Four hexadecimal digits.  The next four bytes count as read even if they are
no digits. -/
def readHex (cs : List Char) : Reading Nat :=
  if byteCount (cs.take 4) < 4 then .error ⟨.endInString, .settled 0⟩
  else
    match cs with
    | a :: b :: c :: d :: rest =>
      match hexValue? a, hexValue? b, hexValue? c, hexValue? d with
      | some a, some b, some c, some d => .ok (((a * 16 + b) * 16 + c) * 16 + d, rest)
      | _, _, _, _ => .error ⟨.invalidEscape, .settled (byteCount cs - 4)⟩
    | _ => .error ⟨.invalidEscape, .settled (byteCount cs - 4)⟩

def isLeadSurrogate (n : Nat) : Bool := 0xD800 ≤ n && n ≤ 0xDBFF

def isTrailSurrogate (n : Nat) : Bool := 0xDC00 ≤ n && n ≤ 0xDFFF

/-- What follows the first half of a surrogate pair. -/
def readTrail (lead : Nat) : List Char → Reading Char
  | [] => .error (.here .endInString [])
  | ['\\'] => .error (.here .endInString [])
  | '\\' :: 'u' :: rest =>
    match readHex rest with
    | .error fault => .error fault
    | .ok (trail, rest) =>
      if isTrailSurrogate trail then
        .ok (Char.ofNat ((lead - 0xD800) * 0x400 + (trail - 0xDC00) + 0x10000), rest)
      else .error (.here .loneSurrogate rest)
  | '\\' :: rest => .error (.next .unpairedSurrogate rest)
  | rest => .error (.next .unpairedSurrogate rest)

/-- A character given by its code, after the letter that announces it. -/
def readCode (cs : List Char) : Reading Char :=
  match readHex cs with
  | .error fault => .error fault
  | .ok (n, rest) =>
    if isTrailSurrogate n then .error (.here .loneSurrogate rest)
    else if isLeadSurrogate n then readTrail n rest
    else .ok (Char.ofNat n, rest)

/-- The character that an escape of one letter stands for. -/
def unescape? (c : Char) : Option Char :=
  if c = '"' then some '"'
  else if c = '\\' then some '\\'
  else if c = '/' then some '/'
  else if c = 'b' then some '\x08'
  else if c = 'f' then some '\x0c'
  else if c = 'n' then some '\n'
  else if c = 'r' then some '\r'
  else if c = 't' then some '\t'
  else none

/-- What follows a backslash. -/
def readEscape : List Char → Reading Char
  | [] => .error (.here .endInString [])
  | c :: rest =>
    match unescape? c with
    | some d => .ok (d, rest)
    | none => if c = 'u' then readCode rest else .error (.next .invalidEscape (c :: rest))

/-- The characters of a string up to its closing quote.  The length of the first
text bounds their number. -/
def readBody : List Char → List Char → Reading (List Char)
  | _, [] => .error (.here .endInString [])
  | [], rest => .error (.here .endInString rest)
  | _ :: fuel, c :: rest =>
    if c = '"' then .ok ([], rest)
    else if c = '\\' then
      match readEscape rest with
      | .error fault => .error fault
      | .ok (d, rest) =>
        match readBody fuel rest with
        | .error fault => .error fault
        | .ok (ds, rest) => .ok (d :: ds, rest)
    else if c.toNat < 32 then .error (.here .controlCharacter rest)
    else
      match readBody fuel rest with
      | .error fault => .error fault
      | .ok (ds, rest) => .ok (c :: ds, rest)

/-- A string, after its opening quote. -/
def readQuoted (cs : List Char) : Reading String :=
  match readBody cs cs with
  | .error fault => .error fault
  | .ok (ds, rest) => .ok (String.ofList ds, rest)

/-! ## Items and members -/

/-- Steps to the next item of an array: its text, or nothing where the closing
bracket stands. -/
def nextItem (first : Bool) (cs : List Char) : Except Fault (Option (List Char)) :=
  match skipBlanks cs with
  | [] => .error (.next .endInArray [])
  | c :: rest =>
    if c = ']' then .ok none
    else if first then .ok (some (c :: rest))
    else if c = ',' then
      match skipBlanks rest with
      | [] => .error (.next .endInValue [])
      | ']' :: rest => .error (.next .trailingComma (']' :: rest))
      | rest => .ok (some rest)
    else .error (.next .expectedCommaOrBracket (c :: rest))

/-- Takes the closing bracket of an array. -/
def closeArray (cs : List Char) : Except Fault (List Char) :=
  match skipBlanks cs with
  | [] => .error (.next .endInArray [])
  | ']' :: rest => .ok rest
  | ',' :: rest =>
    match skipBlanks rest with
    | ']' :: rest => .error (.next .trailingComma (']' :: rest))
    | rest => .error (.next .trailingCharacters rest)
  | rest => .error (.next .trailingCharacters rest)

/-- Where the reading stands after an attempt to take a closing bracket. -/
def afterArray (cs : List Char) : List Char :=
  match skipBlanks cs with
  | ']' :: rest => rest
  | ',' :: rest => skipBlanks rest
  | rest => rest

/-- Steps to the next member of an object: its key and the text after it, or
nothing where the closing brace stands. -/
def nextMember (first : Bool) (cs : List Char) : Except Fault (Option (String × List Char)) :=
  match skipBlanks cs with
  | [] => .error (.next .endInObject [])
  | c :: rest =>
    if c = '}' then .ok none
    else if first then
      if c = '"' then (readQuoted rest).map some else .error (.next .keyNotString (c :: rest))
    else if c = ',' then
      match skipBlanks rest with
      | [] => .error (.next .endInValue [])
      | '"' :: rest => (readQuoted rest).map some
      | '}' :: rest => .error (.next .trailingComma ('}' :: rest))
      | rest => .error (.next .keyNotString rest)
    else .error (.next .expectedCommaOrBrace (c :: rest))

/-- Takes the colon between a key and its value. -/
def readColon (cs : List Char) : Except Fault (List Char) :=
  match skipBlanks cs with
  | [] => .error (.next .endInObject [])
  | ':' :: rest => .ok rest
  | rest => .error (.next .expectedColon rest)

/-- Takes the closing brace of an object. -/
def closeObject (cs : List Char) : Except Fault (List Char) :=
  match skipBlanks cs with
  | [] => .error (.next .endInObject [])
  | '}' :: rest => .ok rest
  | ',' :: rest => .error (.next .trailingComma (',' :: rest))
  | rest => .error (.next .trailingCharacters rest)

/-- Where the reading stands after an attempt to take a closing brace. -/
def afterObject (cs : List Char) : List Char :=
  match skipBlanks cs with
  | '}' :: rest => rest
  | rest => rest

section Loops

variable {α : Type}

/-- The items of an array, up to its closing bracket.  The length of the first
text bounds their number: where that text is used up, so is the array's. -/
def readItems (item : List Char → Reading α) :
    List Char → Bool → List Char → Reading (List α)
  | [], _, _ => .error (.next .endInArray [])
  | _ :: fuel, first, cs =>
    match nextItem first cs with
    | .error fault => .error fault
    | .ok none => .ok ([], cs)
    | .ok (some cs) =>
      match item cs with
      | .error fault => .error fault
      | .ok (x, cs) =>
        match readItems item fuel false cs with
        | .error fault => .error fault
        | .ok (xs, cs) => .ok (x :: xs, cs)

/-- An array, after its opening bracket. -/
def readArray (item : List Char → Reading α) (cs : List Char) : Reading (List α) :=
  match readItems item cs true cs with
  | .error fault => .error (fault.settle afterArray)
  | .ok (xs, cs) => (closeArray cs).map fun rest => (xs, rest)

/-- The members of an object, up to its closing brace.  The length of the first
text bounds their number, as in `readItems`. -/
def readMembers (value : List Char → Reading α) :
    List Char → Bool → List Char → Reading (List (String × α))
  | [], _, _ => .error (.next .endInObject [])
  | _ :: fuel, first, cs =>
    match nextMember first cs with
    | .error fault => .error fault
    | .ok none => .ok ([], cs)
    | .ok (some (key, cs)) =>
      match readColon cs with
      | .error fault => .error fault
      | .ok cs =>
        match value cs with
        | .error fault => .error fault
        | .ok (x, cs) =>
          match readMembers value fuel false cs with
          | .error fault => .error fault
          | .ok (ms, cs) => .ok ((key, x) :: ms, cs)

/-- An object, after its opening brace. -/
def readObject (value : List Char → Reading α) (cs : List Char) :
    Reading (List (String × α)) :=
  match readMembers value cs true cs with
  | .error fault => .error (fault.settle afterObject)
  | .ok (ms, cs) => (closeObject cs).map fun rest => (ms, rest)

end Loops

/-! ## Values -/

/-- A value that is no array and no object. -/
def readScalar : List Char → Reading Json
  | [] => .error (.next .endInValue [])
  | c :: rest =>
    if c = 'n' then (readWord "ull".toList rest).map fun rest => (null, rest)
    else if c = 't' then (readWord "rue".toList rest).map fun rest => (bool true, rest)
    else if c = 'f' then (readWord "alse".toList rest).map fun rest => (bool false, rest)
    else if c = '-' then (Numeral.read true rest).map fun (n, rest) => (number n, rest)
    else if Numeral.isDigit c then
      (Numeral.read false (c :: rest)).map fun (n, rest) => (number n, rest)
    else if c = '"' then (readQuoted rest).map fun (s, rest) => (string s, rest)
    else .error (.next .expectedValue (c :: rest))

/-- A value in which at most `nesting` brackets are open at once. -/
def readValue (nesting : Nat) (cs : List Char) : Reading Json :=
  match skipBlanks cs with
  | '[' :: rest =>
    match nesting with
    | 0 => .error (.next .tooDeep ('[' :: rest))
    | nesting + 1 =>
      (readArray (readValue nesting) rest).map fun (items, rest) => (array items, rest)
  | '{' :: rest =>
    match nesting with
    | 0 => .error (.next .tooDeep ('{' :: rest))
    | nesting + 1 =>
      (readObject (readValue nesting) rest).map fun (members, rest) => (ofMembers members, rest)
  | rest => readScalar rest

/-- The number of brackets that a text may nest. -/
def maxNesting : Nat := 127

/-- Reads a text that holds one thing and nothing after it. -/
def readWholeText {α : Type} (read : List Char → Reading α) (text : List Char) :
    Except Fault α :=
  match read text with
  | .error fault => .error fault
  | .ok (x, rest) =>
    match skipBlanks rest with
    | [] => .ok x
    | rest => .error (.next .trailingCharacters rest)

/-- The value that a text holds, or what is wrong with the text. -/
def parseChars (text : List Char) : Except Fault Json :=
  readWholeText (readValue maxNesting) text

/-- The value that a text holds, or a message. -/
def parse (text : String) : Except String Json :=
  (parseChars text.toList).mapError (Fault.message text.toList)

/-! ## Values that nobody asked for -/

/-- What follows a backslash in a skipped string. -/
def skipEscape : List Char → Except Fault (List Char)
  | [] => .error (.here .endInString [])
  | c :: rest =>
    if (unescape? c).isSome then .ok rest
    else if c = 'u' then (readHex rest).map Prod.snd
    else .error (.next .invalidEscape (c :: rest))

/-- The rest of a skipped string, after its opening quote.  The length of the first
text bounds the number of its characters. -/
def skipBody : List Char → List Char → Except Fault (List Char)
  | _, [] => .error (.here .endInString [])
  | [], rest => .error (.here .endInString rest)
  | _ :: fuel, c :: rest =>
    if c = '"' then .ok rest
    else if c = '\\' then
      match skipEscape rest with
      | .error fault => .error fault
      | .ok rest => skipBody fuel rest
    else if c.toNat < 32 then .error (.here .controlCharacter (c :: rest))
    else skipBody fuel rest

/-- A skipped string, after its opening quote. -/
def skipQuoted (cs : List Char) : Except Fault (List Char) := skipBody cs cs

/-- A skipped value that is no array and no object. -/
def skipScalar : List Char → Except Fault (List Char)
  | [] => .error (.next .endInValue [])
  | c :: rest =>
    if c = 'n' then readWord "ull".toList rest
    else if c = 't' then readWord "rue".toList rest
    else if c = 'f' then readWord "alse".toList rest
    else if c = '-' then Numeral.skip rest
    else if Numeral.isDigit c then Numeral.skip (c :: rest)
    else if c = '"' then skipQuoted rest
    else .error (.next .expectedValue (c :: rest))

/-- The key of a skipped member and its colon. -/
def skipKey (cs : List Char) : Except Fault (List Char) :=
  match skipBlanks cs with
  | [] => .error (.next .endInObject [])
  | '"' :: rest =>
    match skipQuoted rest with
    | .error fault => .error fault
    | .ok rest => readColon rest
  | rest => .error (.next .keyNotString rest)

/-- Which bracket is open around a skipped value. -/
inductive Bracket
  | array
  | object

namespace Bracket

def closing : Bracket → Char
  | array => ']'
  | object => '}'

/-- What the text lacks if it ends inside the bracket. -/
def endCause : Bracket → Cause
  | array => .endInArray
  | object => .endInObject

/-- What should have followed an element. -/
def separatorCause : Bracket → Cause
  | array => .expectedCommaOrBracket
  | object => .expectedCommaOrBrace

end Bracket

/-- What a skipped text goes on with: a further value, or, after a value or an
opening bracket, the inside of the innermost open bracket. -/
inductive SkipMode
  | value
  | inside (afterValue : Bool)

/-- Skips a value together with what is open around it.  No bound is set to the
nesting, so the open brackets are kept in a list; the fuel bounds the number of
steps. -/
def skipSteps : Nat → SkipMode → List Bracket → List Char → Except Fault (List Char)
  | 0, _, _, cs => .error (.here .endInValue cs)
  | fuel + 1, .value, enclosing, cs =>
    match skipBlanks cs with
    | '[' :: rest => skipSteps fuel (.inside false) (.array :: enclosing) rest
    | '{' :: rest => skipSteps fuel (.inside false) (.object :: enclosing) rest
    | rest =>
      match skipScalar rest with
      | .error fault => .error fault
      | .ok rest => skipSteps fuel (.inside true) enclosing rest
  | _ + 1, .inside _, [], cs => .ok cs
  | fuel + 1, .inside afterValue, bracket :: enclosing, cs =>
    let element (cs : List Char) : Except Fault (List Char) :=
      match bracket with
      | .array => skipSteps fuel .value (bracket :: enclosing) cs
      | .object =>
        match skipKey cs with
        | .error fault => .error fault
        | .ok cs => skipSteps fuel .value (bracket :: enclosing) cs
    match skipBlanks cs with
    | [] => .error (.next bracket.endCause [])
    | c :: rest =>
      if c = bracket.closing then skipSteps fuel (.inside true) enclosing rest
      else if afterValue then
        if c = ',' then element rest else .error (.next bracket.separatorCause (c :: rest))
      else element (c :: rest)

/-- Skips a value that nobody asked for. -/
def skipValue (cs : List Char) : Except Fault (List Char) :=
  skipSteps (2 * cs.length + 2) .value [] cs

end Json

end Decipher
