import Decipher.Json.Reader
import Decipher.Yaml.Token

/-!
# Scalars

The scanners of plain, quoted and block scalars.  In the first two a line break
folds: alone it counts as a space, and of several the first one is dropped.  The
`Gap` between two words holds what stands there until it is known whether a word
follows.
-/

namespace Decipher

namespace Yaml

/-! ## Folding -/

/-- What stands between two words of a scalar. -/
structure Gap where
  /-- The spaces and tabs, if there is no line break. -/
  blanks : List Char := []
  /-- Whether a line ended. -/
  newline : Bool := false
  /-- The first line break; empty if the line break was escaped. -/
  first : List Char := []
  /-- The further line breaks. -/
  more : List Char := []

/-- A text in which a line ended: a line break alone becomes a space. -/
def foldBreaks (first more : List Char) : List Char :=
  if first.head? == some '\n' then (if more.isEmpty then [' '] else more) else first ++ more

/-- What a gap contributes to the scalar. -/
def Gap.text (gap : Gap) : List Char :=
  if gap.newline then foldBreaks gap.first gap.more else gap.blanks

/-- Takes the gap that goes on here.  Behind a line break no tab may stand before
column `indent`.  The length of the text bounds the number of characters. -/
def scanGap (indent : Int) (start : Mark) : List Char → Gap → Cursor → Scan Gap
  | [], gap, c => .ok (gap, c)
  | _ :: fuel, gap, c =>
    match c.peek? with
    | none => .ok (gap, c)
    | some x =>
      if isGap x then
        if !gap.newline then
          scanGap indent start fuel { gap with blanks := gap.blanks ++ [x] } c.skip
        else if x == '\t' && c.mark.column < indent then
          .error (.within .plainScalar start .tabInIndentation c.mark)
        else scanGap indent start fuel gap c.skip
      else if isBreak x then
        let (brk, c) := c.takeBreak
        let gap :=
          if gap.newline then { gap with more := gap.more ++ brk }
          else { gap with blanks := [], newline := true, first := brk }
        scanGap indent start fuel gap c
      else .ok (gap, c)

/-! ## Plain scalars -/

/-- The characters that end a plain scalar in a flow collection. -/
def endsFlowPlain (x : Char) : Bool := x == ',' || x == '[' || x == ']' || x == '{' || x == '}'

/-- A word of a plain scalar. -/
def scanPlainWord (inFlow : Bool) (start : Mark) : List Char → Mark → Scan (List Char)
  | [], m => .ok ([], ⟨[], m⟩)
  | x :: rest, m =>
    let here : Cursor := ⟨x :: rest, m⟩
    if isGap x || isBreak x then .ok ([], here)
    else if inFlow && x == ':' && (rest.head?.map fun y => endsFlowPlain y || y == '?') == some true
    then .error (.within .plainScalar start .oddColon m)
    else if x == ':' && here.wordEndsAt 1 then .ok ([], here)
    else if inFlow && endsFlowPlain x then .ok ([], here)
    else
      match scanPlainWord inFlow start rest (m.next x) with
      | .error fault => .error fault
      | .ok (xs, c) => .ok (x :: xs, c)

/-- What goes on a plain scalar: a text, where the scalar stops, and whether a line
ended after it. -/
structure PlainScan where
  text : List Char
  stop : Mark
  newline : Bool

/-- The words of a plain scalar that go on here, behind a gap.  Outside flow
collections no word may stand before column `indent`.  The length of the text bounds
the number of words. -/
def scanPlainWords (inFlow : Bool) (indent : Int) (start : Mark) :
    List Char → Gap → Mark → Cursor → Scan PlainScan
  | [], gap, stop, c => .ok (⟨[], stop, gap.newline⟩, c)
  | _ :: fuel, gap, stop, c =>
    if c.seesDocumentMark '-' || c.seesDocumentMark '.' || c.sees '#' then
      .ok (⟨[], stop, gap.newline⟩, c)
    else
      match scanPlainWord inFlow start c.rest c.mark with
      | .error fault => .error fault
      | .ok (word, c) =>
        let (text, gap, stop) :=
          if word.isEmpty then ([], gap, stop) else (gap.text ++ word, ({} : Gap), c.mark)
        if !c.seesAny (fun x => isGap x || isBreak x) then .ok (⟨text, stop, gap.newline⟩, c)
        else
          match scanGap indent start c.rest gap c with
          | .error fault => .error fault
          | .ok (gap, c) =>
            if !inFlow && c.mark.column < indent then .ok (⟨text, stop, gap.newline⟩, c)
            else
              (scanPlainWords inFlow indent start fuel gap stop c).map fun (s, c) =>
                ({ s with text := text ++ s.text }, c)

/-- A plain scalar, where the enclosing block is indented by `indent`.  The answer
tells also whether a line ended after it. -/
def scanPlain (inFlow : Bool) (indent : Int) (c : Cursor) : Scan (Token × Bool) :=
  (scanPlainWords inFlow (indent + 1) c.mark c.rest {} c.mark c).map
    fun (s, c') =>
      ((⟨.scalar (String.ofList s.text) .plain, c.mark, s.stop⟩, s.newline), c')

/-! ## Quoted scalars -/

/-- What the letter of an escape stands for. -/
inductive Escape
  | char (x : Char)
  /-- A code point in a number of hexadecimal digits. -/
  | code (digits : Nat)

/-- The escapes of double quotes. -/
def escape? (x : Char) : Option Escape :=
  match x with
  | '0' => some (.char '\x00')
  | 'a' => some (.char '\x07')
  | 'b' => some (.char '\x08')
  | 't' => some (.char '\t')
  | '\t' => some (.char '\t')
  | 'n' => some (.char '\n')
  | 'v' => some (.char '\x0b')
  | 'f' => some (.char '\x0c')
  | 'r' => some (.char '\r')
  | 'e' => some (.char '\x1b')
  | ' ' => some (.char ' ')
  | '"' => some (.char '"')
  | '/' => some (.char '/')
  | '\\' => some (.char '\\')
  | 'N' => some (.char '\u0085')
  | '_' => some (.char '\u00a0')
  | 'L' => some (.char '\u2028')
  | 'P' => some (.char '\u2029')
  | 'x' => some (.code 2)
  | 'u' => some (.code 4)
  | 'U' => some (.code 8)
  | _ => none

/-- The value of hexadecimal digits. -/
def hexNumber? : Nat → List Char → Option Nat
  | value, [] => some value
  | value, x :: xs =>
    match Json.hexValue? x with
    | some d => hexNumber? (value * 16 + d) xs
    | none => none

/-- An escape, from its backslash on. -/
def scanEscape (start : Mark) (c : Cursor) : Scan Char :=
  match (c.ahead? 1).bind escape? with
  | none => .error (.within .quotedEscape start .unknownEscape c.mark)
  | some (.char x) => .ok (x, c.skipN 2)
  | some (.code digits) =>
    let c := c.skipN 2
    let word := c.rest.take digits
    let value? := if word.length = digits then hexNumber? 0 word else none
    match value? with
    | none => .error (.within .quotedEscape start .noHexDigit c.mark)
    | some value =>
      if value.isValidChar then .ok (Char.ofNat value, c.skipN digits)
      else .error (.within .quotedEscape start .badCodePoint c.mark)

/-- A word of a quoted scalar, and whether an escaped line break ends it.  The length
of the text bounds the number of characters. -/
def scanQuotedWord (single : Bool) (start : Mark) : List Char → Cursor → Scan (List Char × Bool)
  | [], c => .ok (([], false), c)
  | _ :: fuel, c =>
    let more (x : Char) (c : Cursor) : Scan (List Char × Bool) :=
      match scanQuotedWord single start fuel c with
      | .error fault => .error fault
      | .ok ((xs, broken), c) => .ok ((x :: xs, broken), c)
    match c.peek? with
    | none => .ok (([], false), c)
    | some x =>
      if isGap x || isBreak x then .ok (([], false), c)
      else if single then
        if x == '\'' then
          if c.ahead? 1 == some '\'' then more '\'' (c.skipN 2) else .ok (([], false), c)
        else more x c.skip
      else if x == '"' then .ok (([], false), c)
      else if x == '\\' then
        if (c.ahead? 1).any isBreak then .ok (([], true), c.skip.skipBreak)
        else
          match scanEscape start c with
          | .error fault => .error fault
          | .ok (y, c) => more y c
      else more x c.skip

/-- The words of a quoted scalar that go on here, up to the closing quote.  The length
of the text bounds their number. -/
def scanQuotedWords (single : Bool) (start : Mark) : List Char → Cursor → Scan (List Char)
  | [], c => .ok ([], c)
  | _ :: fuel, c =>
    if c.seesDocumentMark '-' || c.seesDocumentMark '.' then
      .error (.within .quotedScalar start .documentMark c.mark)
    else if c.atEnd then .error (.within .quotedScalar start .endOfStream c.mark)
    else
      match scanQuotedWord single start c.rest c with
      | .error fault => .error fault
      | .ok ((word, broken), c) =>
        if c.sees (if single then '\'' else '"') then .ok (word, c.skip)
        else
          match scanGap 0 start c.rest { newline := broken } c with
          | .error fault => .error fault
          | .ok (gap, c) =>
            (scanQuotedWords single start fuel c).map fun (text, c) =>
              (word ++ gap.text ++ text, c)

/-- A quoted scalar, from its opening quote on. -/
def scanQuoted (single : Bool) (c : Cursor) : Scan Token :=
  (scanQuotedWords single c.mark c.rest c.skip).map fun (text, c') =>
    (⟨.scalar (String.ofList text) (if single then .singleQuoted else .doubleQuoted), c.mark,
      c'.mark⟩, c')

/-! ## Block scalars -/

/-- What becomes of the line breaks at the end of a block scalar. -/
inductive Chomping
  | strip
  | clip
  | keep

/-- The two indicators behind the mark of a block scalar. -/
structure BlockHeader where
  chomping : Chomping := .clip
  /-- The indentation beyond that of the enclosing block, if it is given. -/
  increment : Nat := 0

/-- The chomping that a character asks for. -/
def chomping? (x : Char) : Option Chomping :=
  if x == '+' then some .keep else if x == '-' then some .strip else none

/-- An indentation indicator, if one stands here. -/
def scanIncrement (start : Mark) (c : Cursor) : Scan Nat :=
  match c.peek? with
  | none => .ok (0, c)
  | some x =>
    if x == '0' then .error (.within .blockScalar start .zeroIndentation c.mark)
    else if x.isDigit then .ok (x.toNat - 48, c.skip)
    else .ok (0, c)

/-- The indicators of a block scalar, in either order. -/
def scanBlockHeader (start : Mark) (c : Cursor) : Scan BlockHeader :=
  match c.peek?.bind chomping? with
  | some chomping =>
    (scanIncrement start c.skip).map fun (increment, c) => (⟨chomping, increment⟩, c)
  | none =>
    match scanIncrement start c with
    | .error fault => .error fault
    | .ok (0, c) => .ok ({}, c)
    | .ok (increment, c) =>
      match c.peek?.bind chomping? with
      | some chomping => .ok (⟨chomping, increment⟩, c.skip)
      | none => .ok (⟨.clip, increment⟩, c)

/-- Takes the spaces at the start of a line, up to column `indent`, or all of them
if the indentation is not known yet. -/
def skipIndentation (indent : Nat) : List Char → Mark → Cursor
  | [], m => ⟨[], m⟩
  | x :: rest, m =>
    if x == ' ' && (indent = 0 || m.column < indent) then skipIndentation indent rest (m.next x)
    else ⟨x :: rest, m⟩

/-- The empty lines that stand here. -/
structure EmptyLines where
  breaks : List Char
  /-- The greatest column at which one of the lines, or the text behind them,
  started. -/
  widest : Nat
  /-- Where the last of the lines stopped. -/
  stop : Mark

/-- Takes the empty lines that stand here and the indentation behind them.  The length
of the text bounds their number. -/
def scanEmptyLines (indent : Nat) (start : Mark) :
    List Char → EmptyLines → Cursor → Scan EmptyLines
  | [], lines, c => .ok (lines, c)
  | _ :: fuel, lines, c =>
    let c := skipIndentation indent c.rest c.mark
    let lines := { lines with widest := max lines.widest c.mark.column }
    if (indent = 0 || c.mark.column < indent) && c.sees '\t' then
      .error (.within .blockScalar start .tabForIndentation c.mark)
    else if c.seesAny isBreak then
      let (brk, c) := c.takeBreak
      scanEmptyLines indent start fuel
        { lines with breaks := lines.breaks ++ brk, stop := c.mark } c
    else .ok (lines, c)

/-- A block scalar as far as it was scanned.  `first` is the line break behind the
last line and `more` those of the empty lines after it. -/
structure BlockScan where
  text : List Char := []
  first : List Char := []
  more : List Char := []
  /-- Whether the last line started with a space or a tab. -/
  blank : Bool := false
  stop : Mark

/-- The lines of a block scalar that stand here, behind what `s` tells of the lines
before.  Between two lines that start with no blank, folding makes a space of a line
break that stands alone.  The length of the text bounds the number of lines. -/
def scanBlockLines (literal : Bool) (indent : Nat) (start : Mark) :
    List Char → BlockScan → Cursor → Scan BlockScan
  | [], s, c => .ok (s, c)
  | _ :: fuel, s, c =>
    if c.mark.column ≠ indent || c.atEnd then .ok (s, c)
    else
      let blank := c.seesAny isGap
      let folds := !literal && s.first.head? == some '\n' && !s.blank && !blank
      let joint :=
        if folds then (if s.more.isEmpty then [' '] else s.more) else s.first ++ s.more
      let (line, c) := c.takeWhile fun x => !isBreak x
      let (brk, c) := c.takeBreak
      match scanEmptyLines indent start c.rest ⟨[], 0, c.mark⟩ c with
      | .error fault => .error fault
      | .ok (lines, c) =>
        (scanBlockLines literal indent start fuel ⟨[], brk, lines.breaks, blank, lines.stop⟩ c).map
          fun (s, c) => ({ s with text := joint ++ line ++ s.text }, c)

/-- The text of a whole block scalar. -/
def BlockScan.result (s : BlockScan) (chomping : Chomping) : List Char :=
  match chomping with
  | .strip => s.text
  | .clip => s.text ++ s.first
  | .keep => s.text ++ s.first ++ s.more

/-- The content of a block scalar, behind the line of its header, where the enclosing
block is indented by `outer`. -/
def scanBlockContent (literal : Bool) (outer : Int) (header : BlockHeader) (start : Mark)
    (c : Cursor) : Scan BlockScan :=
  let given : Nat :=
    if header.increment = 0 then 0
    else if 0 ≤ outer then outer.toNat + header.increment
    else header.increment
  match scanEmptyLines given start c.rest ⟨[], 0, c.mark⟩ c with
  | .error fault => .error fault
  | .ok (lines, c) =>
    let indent := if given = 0 then max (max lines.widest (outer + 1).toNat) 1 else given
    scanBlockLines literal indent start c.rest { more := lines.breaks, stop := lines.stop } c

/-- A block scalar, from its mark on. -/
def scanBlock (literal : Bool) (outer : Int) (c : Cursor) : Scan Token :=
  let start := c.mark
  match scanBlockHeader start c.skip with
  | .error fault => .error fault
  | .ok (header, c) =>
    let c := (c.skipWhile isGap).skipComment
    if !c.lineEnds then .error (.within .blockScalar start .noLineEnd c.mark)
    else
      (scanBlockContent literal outer header start c.skipBreak).map fun (s, c) =>
        (⟨.scalar (String.ofList (s.result header.chomping))
          (if literal then .literal else .folded), start, s.stop⟩, c)

end Yaml

end Decipher
