import Decipher.Json.Reader
import Decipher.Yaml.Token

/-!
# Anchors, tags and directives

The scanners of the tokens that are made of names.  Each takes the cursor at the
first character of its token.
-/

namespace Decipher

namespace Yaml

/-! ## Anchors -/

/-- The characters other than gaps that may follow the name of an anchor. -/
def endsAnchor (x : Char) : Bool :=
  x == '?' || x == ':' || x == ',' || x == ']' || x == '}' || x == '%' || x == '@' || x == '\x60'

/-- The name of an anchor or of an alias, behind its mark. -/
def scanAnchorName (context : Context) (c : Cursor) : Scan String :=
  let (name, c') := c.skip.takeWhile isNameChar
  if name.isEmpty || !(c'.wordEndsAt 0 || c'.seesAny endsAnchor) then
    .error (.within context c.mark .noNameChar c'.mark)
  else .ok (String.ofList name, c')

/-! ## Tags -/

/-- Whether the tag is part of a directive, which shows in messages. -/
def uriContext (inDirective : Bool) : Context := if inDirective then .tagDirectiveUri else .tagUri

/-- An octet given by two hexadecimal digits behind a percent sign. -/
def scanOctet (inDirective : Bool) (start : Mark) (c : Cursor) : Scan Nat :=
  match c.rest with
  | '%' :: high :: low :: _ =>
    match Json.hexValue? high, Json.hexValue? low with
    | some h, some l => .ok (h * 16 + l, c.skipN 3)
    | _, _ => .error (.within (uriContext inDirective) start .noUriOctet c.mark)
  | _ => .error (.within (uriContext inDirective) start .noUriOctet c.mark)

/-- The octets of a character behind its first one. -/
def scanTrailOctets (inDirective : Bool) (start : Mark) : Nat → Nat → Cursor → Scan Nat
  | 0, code, c => .ok (code, c)
  | count + 1, code, c =>
    match scanOctet inDirective start c with
    | .error fault => .error fault
    | .ok (octet, c') =>
      if octet / 64 = 2 then scanTrailOctets inDirective start count (code * 64 + octet % 64) c'
      else .error (.within (uriContext inDirective) start .badTrailOctet c.mark)

/-- The character of a code that was given by a number of octets.  Only the shortest
way to give a code gives a character; the others stand for none that a tag of the
standard holds. -/
def octetChar (count code : Nat) : Char :=
  let x := Char.ofNat code
  if code.isValidChar && x.utf8Size == count then x else '\uFFFD'

/-- A character given by its octets. -/
def scanEscapedChar (inDirective : Bool) (start : Mark) (c : Cursor) : Scan Char :=
  match scanOctet inDirective start c with
  | .error fault => .error fault
  | .ok (octet, c') =>
    let whole (count code : Nat) : Scan Char :=
      (scanTrailOctets inDirective start (count - 1) code c').map fun (code, c) =>
        (octetChar count code, c)
    if octet < 0x80 then whole 1 octet
    else if octet / 32 = 6 then whole 2 (octet % 32)
    else if octet / 16 = 14 then whole 3 (octet % 16)
    else if octet / 8 = 30 then whole 4 (octet % 8)
    else .error (.within (uriContext inDirective) start .badLeadOctet c.mark)

/-- The characters of a tag.  Between angle brackets and in directives there are
three more. -/
def isUriChar (verbatim : Bool) (x : Char) : Bool :=
  isNameChar x || ";/?:@&=+$.%!~*'()".toList.contains x || (verbatim && ",[]".toList.contains x)

/-- The characters of a tag that stand here.  The length of the text bounds their
number. -/
def scanUriChars (verbatim inDirective : Bool) (start : Mark) :
    List Char → Cursor → Scan (List Char)
  | [], c => .ok ([], c)
  | _ :: fuel, c =>
    match c.peek? with
    | none => .ok ([], c)
    | some x =>
      if !isUriChar verbatim x then .ok ([], c)
      else
        let one : Scan Char :=
          if x == '%' then scanEscapedChar inDirective start c else .ok (x, c.skip)
        match one with
        | .error fault => .error fault
        | .ok (x, c) =>
          match scanUriChars verbatim inDirective start fuel c with
          | .error fault => .error fault
          | .ok (xs, c) => .ok (x :: xs, c)

/-- A tag of which `head` was read before.  It starts behind the first character of
the head and must not be empty together with the head.  A NUL ends it: what is written
behind one does not count. -/
def scanUri (verbatim inDirective : Bool) (head : List Char) (start : Mark) (c : Cursor) :
    Scan String :=
  match scanUriChars verbatim inDirective start c.rest c with
  | .error fault => .error fault
  | .ok (xs, c) =>
    if head.isEmpty && xs.isEmpty then
      .error (.within (uriContext inDirective) start .noTagUri c.mark)
    else .ok (String.ofList (head.drop 1 ++ xs.takeWhile (· ≠ '\x00')), c)

/-- What may be the handle of a tag: an exclamation mark, a name and, for a proper
handle, another exclamation mark. -/
def scanHandle (inDirective : Bool) (start : Mark) (c : Cursor) : Scan (List Char) :=
  if !c.sees '!' then
    .error (.within (if inDirective then .tagDirectiveHandle else .tag) start .noExclamation c.mark)
  else
    let (name, c) := c.skip.takeWhile isNameChar
    if c.sees '!' then .ok ('!' :: name ++ ['!'], c.skip)
    else if inDirective && !name.isEmpty then
      .error (.within .tagDirectiveHandleEnd start .noExclamation c.mark)
    else .ok ('!' :: name, c)

/-- A handle with a name or an empty one between two exclamation marks. -/
def isProperHandle (handle : List Char) : Bool :=
  2 ≤ handle.length && handle.getLast? == some '!'

/-- The handle and the suffix of a tag between angle brackets. -/
def scanVerbatimTag (start : Mark) (c : Cursor) : Scan (String × String) :=
  match scanUri true false [] start (c.skipN 2) with
  | .error fault => .error fault
  | .ok (suffix, c) =>
    if c.sees '>' then .ok (("", suffix), c.skip)
    else .error (.within .tag start .noTagEnd c.mark)

/-- The handle and the suffix of any other tag. -/
def scanShortTag (start : Mark) (c : Cursor) : Scan (String × String) :=
  match scanHandle false start c with
  | .error fault => .error fault
  | .ok (handle, c) =>
    if isProperHandle handle then
      (scanUri false false [] start c).map fun (suffix, c) => ((String.ofList handle, suffix), c)
    else
      (scanUri false false handle start c).map fun (suffix, c) =>
        (if suffix.isEmpty then ("", "!") else ("!", suffix), c)

/-- A tag.  In a flow collection a comma may follow it. -/
def scanTag (inFlow : Bool) (c : Cursor) : Scan TokenKind :=
  let tag := if c.ahead? 1 == some '<' then scanVerbatimTag c.mark c else scanShortTag c.mark c
  match tag with
  | .error fault => .error fault
  | .ok ((handle, suffix), c') =>
    if c'.wordEndsAt 0 || (inFlow && c'.sees ',') then .ok (.tag handle suffix, c')
    else .error (.within .tag c.mark .noGapOrLineEnd c'.mark)

/-! ## Directives -/

/-- The longest number in a version. -/
def maxVersionDigits : Nat := 9

/-- A number of a version.  `length` counts the digits before. -/
def scanVersionNumber (start : Mark) (length value : Nat) : List Char → Mark → Scan Nat
  | [], m =>
    if length = 0 then .error (.within .versionDirective start .noVersionNumber m)
    else .ok (value, ⟨[], m⟩)
  | x :: rest, m =>
    if x.isDigit then
      if maxVersionDigits ≤ length then
        .error (.within .versionDirective start .longVersionNumber m)
      else scanVersionNumber start (length + 1) (value * 10 + (x.toNat - 48)) rest (m.next x)
    else if length = 0 then .error (.within .versionDirective start .noVersionNumber m)
    else .ok (value, ⟨x :: rest, m⟩)

/-- The version of a directive. -/
def scanVersion (start : Mark) (c : Cursor) : Scan TokenKind :=
  let c := c.skipWhile isGap
  match scanVersionNumber start 0 0 c.rest c.mark with
  | .error fault => .error fault
  | .ok (major, c) =>
    if !c.sees '.' then .error (.within .versionDirective start .noVersionDot c.mark)
    else
      (scanVersionNumber start 0 0 c.skip.rest c.skip.mark).map fun (minor, c) =>
        (.version major minor, c)

/-- The handle of a directive and what it stands for. -/
def scanTagHandle (start : Mark) (c : Cursor) : Scan TokenKind :=
  match scanHandle true start (c.skipWhile isGap) with
  | .error fault => .error fault
  | .ok (handle, c) =>
    if !c.seesAny isGap then .error (.within .tagDirective start .noGap c.mark)
    else
      match scanUri true true [] start (c.skipWhile isGap) with
      | .error fault => .error fault
      | .ok (uri, c) =>
        if c.wordEndsAt 0 then .ok (.tagHandle (String.ofList handle) uri, c)
        else .error (.within .tagDirective start .noGapOrLineEnd c.mark)

/-- The name of a directive. -/
def scanDirectiveName (start : Mark) (c : Cursor) : Scan String :=
  let (name, c) := c.takeWhile isNameChar
  if name.isEmpty then .error (.within .directive start .noDirectiveName c.mark)
  else if c.wordEndsAt 0 then .ok (String.ofList name, c)
  else .error (.within .directive start .oddDirectiveName c.mark)

/-- A directive.  The token stops before the rest of the line, which can only hold a
comment. -/
def scanDirective (c : Cursor) : Scan Token :=
  let start := c.mark
  match scanDirectiveName start c.skip with
  | .error fault => .error fault
  | .ok (name, c) =>
    let content : Scan TokenKind :=
      if name = "YAML" then scanVersion start c
      else if name = "TAG" then scanTagHandle start c
      else .error (.within .directive start .unknownDirective c.mark)
    match content with
    | .error fault => .error fault
    | .ok (kind, c) =>
      let stop := c.mark
      let c := (c.skipWhile isGap).skipComment
      if c.lineEnds then .ok (⟨kind, start, stop⟩, c.skipBreak)
      else .error (.within .directive start .noLineEnd c.mark)

end Yaml

end Decipher
