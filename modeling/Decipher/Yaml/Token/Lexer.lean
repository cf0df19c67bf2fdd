import Decipher.Yaml.Token.Names
import Decipher.Yaml.Token.Scalars

/-!
# From a YAML text to its tokens

The lexer keeps a queue, because a token is not settled as long as it may turn out
to be a key: only the colon behind a simple key shows that a key token, and perhaps
the start of a mapping, belongs in front of it.  Such a key must fit on one line and
in 1024 bytes.

`Lexer.next` delivers the first token of the queue once it is settled;
`tokens` are all tokens that a text delivers, with the fault that ends them if there
is one.  A character that a text may not hold is such a fault, but only for a lexer
that gets as far as its block.
-/

namespace Decipher

namespace Yaml

/-! ## Control characters -/

/-- The characters that a text may hold. -/
def isAllowed (x : Char) : Bool :=
  let n := x.toNat
  n == 0x09 || n == 0x0A || n == 0x0D || (0x20 ≤ n && n ≤ 0x7E) || n == 0x85 ||
    (0xA0 ≤ n && n ≤ 0xD7FF) || (0xE000 ≤ n && n ≤ 0xFFFD) || (0x10000 ≤ n && n ≤ 0x10FFFF)

/-- The most bytes in a block.  A text is read block by block, and a block holds as many
whole characters as fit. -/
def blockSize : Nat := 16384

/-- The first character that a text may not hold.  Its whole block cannot be read. -/
structure Obstacle where
  /-- The number of bytes before the block of the character. -/
  start : Nat
  /-- The number of bytes before the character. -/
  offset : Nat

/-- The obstacle in a text, behind `offset` bytes of which the last block, as far as it
goes, starts at `start`. -/
def obstacle? (start offset : Nat) : List Char → Option Obstacle
  | [] => none
  | x :: rest =>
    let start := if start + blockSize < offset + x.utf8Size then offset else start
    if isAllowed x then obstacle? start (offset + x.utf8Size) rest else some ⟨start, offset⟩

/-! ## The lexer -/

/-- A place where a simple key may have started. -/
structure SimpleKey where
  /-- Whether nothing else can stand there. -/
  required : Bool
  /-- The number of the token that the key would precede. -/
  number : Nat
  mark : Mark

structure Lexer where
  cursor : Cursor
  started : Bool := false
  /-- The tokens that were scanned and not yet delivered. -/
  queue : List Token := []
  /-- The number of tokens delivered. -/
  delivered : Nat := 0
  /-- The columns of the enclosing blocks, innermost first; none outside of all
  blocks. -/
  indents : List Nat := []
  /-- Whether a simple key may start here. -/
  keyAllowed : Bool := false
  /-- The possible key of each enclosing flow collection, innermost first, and at the
  end that of the block. -/
  keys : List (Option SimpleKey) := [none]
  /-- What the text may not hold. -/
  obstacle : Option Obstacle := none

namespace Lexer

/-! ## Bookkeeping -/

/-- The longest simple key, in bytes. -/
def maxKeyLength : Nat := 1024

/-- Whether a flow collection is open. -/
def inFlow (s : Lexer) : Bool := 1 < s.keys.length

/-- The column of the enclosing block, `-1` outside of all blocks. -/
def indent (s : Lexer) : Int :=
  match s.indents with
  | [] => -1
  | column :: _ => column

/-- The possible key at the innermost level. -/
def key? (s : Lexer) : Option SimpleKey := s.keys.head?.join

/-- Sets the possible key at the innermost level. -/
def setKey (s : Lexer) (key : Option SimpleKey) : Lexer :=
  { s with keys := key :: s.keys.tail }

def push (s : Lexer) (t : Token) : Lexer := { s with queue := s.queue ++ [t] }

/-- Puts a token in front of the one that has a number. -/
def insertAt (s : Lexer) (number : Nat) (t : Token) : Lexer :=
  { s with queue := s.queue.insertIdx (number - s.delivered) t }

/-- The fault of a key that nothing made a key. -/
def noColon (s : Lexer) (key : SimpleKey) : Fault :=
  .within .simpleKey key.mark .noColon s.cursor.mark

/-- Whether a key is too far behind to be one. -/
def isStale (s : Lexer) (key : SimpleKey) : Bool :=
  key.mark.line < s.cursor.mark.line || key.mark.index + maxKeyLength < s.cursor.mark.index

/-- Gives up the possible keys that are too far behind. -/
def dropStaleKeys (s : Lexer) : Except Fault Lexer :=
  let stale (key : SimpleKey) : Bool := s.isStale key
  match (s.keys.reverse.filterMap id).find? fun key => stale key && key.required with
  | some key => .error (s.noColon key)
  | none => .ok { s with keys := s.keys.map fun key => key.filter fun key => !stale key }

/-- Gives up the possible key at the innermost level. -/
def dropKey (s : Lexer) : Except Fault Lexer :=
  match s.key? with
  | some key => if key.required then .error (s.noColon key) else .ok (s.setKey none)
  | none => .ok s

/-- Notes that a simple key may start here. -/
def noteKey (s : Lexer) : Except Fault Lexer :=
  if !s.keyAllowed then .ok s
  else
    s.dropKey.map fun s' => s'.setKey (some
      { required := !s.inFlow && s.indent == (s.cursor.mark.column : Int)
        number := s.delivered + s.queue.length
        mark := s.cursor.mark })

/-- Opens a block at a column, if none is open there yet.  Its start goes in front of
the token with a number, or to the end. -/
def openBlock (s : Lexer) (column : Nat) (number : Option Nat) (kind : TokenKind) (mark : Mark) :
    Lexer :=
  if s.inFlow || (column : Int) ≤ s.indent then s
  else
    let s := { s with indents := column :: s.indents }
    match number with
    | some number => s.insertAt number ⟨kind, mark, mark⟩
    | none => s.push ⟨kind, mark, mark⟩

/-- The ends of the blocks that are indented beyond a column, and the blocks that
stay open. -/
def closedBlocks (column : Int) (mark : Mark) : List Nat → List Token × List Nat
  | [] => ([], [])
  | c :: rest =>
    if column < c then
      let (tokens, open_) := closedBlocks column mark rest
      (⟨.blockEnd, mark, mark⟩ :: tokens, open_)
    else ([], c :: rest)

/-- Closes the blocks that are indented beyond a column. -/
def closeBlocks (s : Lexer) (column : Int) : Lexer :=
  if s.inFlow then s
  else
    let (tokens, indents) := closedBlocks column s.cursor.mark s.indents
    { s with queue := s.queue ++ tokens, indents := indents }

/-! ## Between tokens -/

/-- Skips blanks, comments, line breaks and byte order marks at the start of a line.
Where a simple key may start a tab is no blank; in a block, a new line may start one.
The length of the text bounds the number of lines. -/
def skipToToken : List Char → Lexer → Lexer
  | [], s => s
  | _ :: fuel, s =>
    let c := s.cursor
    let c := if c.mark.column = 0 && c.sees '\uFEFF' then c.skip else c
    let tabs := s.inFlow || !s.keyAllowed
    let c := (c.skipWhile fun x => x == ' ' || (tabs && x == '\t')).skipComment
    if c.seesAny isBreak then
      skipToToken fuel { s with cursor := c.skipBreak, keyAllowed := s.keyAllowed || !s.inFlow }
    else { s with cursor := c }

/-! ## One token -/

/-- Scans a mark of some characters. -/
def pushMark (s : Lexer) (kind : TokenKind) (length : Nat) : Lexer :=
  let c := s.cursor.skipN length
  { s with cursor := c }.push ⟨kind, s.cursor.mark, c.mark⟩

/-- Takes in what a scanner found. -/
def pushScan (s : Lexer) (scan : Scan Token) : Except Fault Lexer :=
  scan.map fun (t, c) => { s with cursor := c }.push t

/-- The end of the text.  It counts as the start of a line. -/
def scanEnd (s : Lexer) : Except Fault Lexer :=
  let m := s.cursor.mark
  let m := if m.column = 0 then m else ⟨m.index, m.line + 1, 0⟩
  let s := { s with cursor := ⟨[], m⟩ }.closeBlocks (-1)
  s.dropKey.map fun s => { s with keyAllowed := false }.push ⟨.streamEnd, m, m⟩

def scanDirective (s : Lexer) : Except Fault Lexer :=
  match (s.closeBlocks (-1)).dropKey with
  | .error fault => .error fault
  | .ok s => { s with keyAllowed := false }.pushScan (Yaml.scanDirective s.cursor)

def scanDocumentMark (s : Lexer) (kind : TokenKind) : Except Fault Lexer :=
  (s.closeBlocks (-1)).dropKey.map fun s => { s with keyAllowed := false }.pushMark kind 3

def scanFlowStart (s : Lexer) (kind : TokenKind) : Except Fault Lexer :=
  s.noteKey.map fun s => { s with keys := none :: s.keys, keyAllowed := true }.pushMark kind 1

def scanFlowEnd (s : Lexer) (kind : TokenKind) : Except Fault Lexer :=
  s.dropKey.map fun s =>
    { s with keys := if s.inFlow then s.keys.tail else s.keys, keyAllowed := false }.pushMark kind 1

def scanFlowEntry (s : Lexer) : Except Fault Lexer :=
  s.dropKey.map fun s => { s with keyAllowed := true }.pushMark .flowEntry 1

/-- The dash of a block sequence.  In a flow collection the grammar will refuse it. -/
def scanBlockEntry (s : Lexer) : Except Fault Lexer :=
  let m := s.cursor.mark
  if !s.inFlow && !s.keyAllowed then .error (.plain .noBlockEntry m)
  else
    (s.openBlock m.column none .blockSequenceStart m).dropKey.map fun s =>
      { s with keyAllowed := true }.pushMark .blockEntry 1

/-- The mark of a key that is not simple. -/
def scanKey (s : Lexer) : Except Fault Lexer :=
  let m := s.cursor.mark
  if !s.inFlow && !s.keyAllowed then .error (.plain .noMappingKey m)
  else
    (s.openBlock m.column none .blockMappingStart m).dropKey.map fun s =>
      { s with keyAllowed := !s.inFlow }.pushMark .key 1

/-- The colon in front of a value. -/
def scanValue (s : Lexer) : Except Fault Lexer :=
  let m := s.cursor.mark
  match s.key? with
  | some key =>
    let s := s.insertAt key.number ⟨.key, key.mark, key.mark⟩
    let s := s.openBlock key.mark.column (some key.number) .blockMappingStart key.mark
    .ok ({ s.setKey none with keyAllowed := false }.pushMark .value 1)
  | none =>
    if !s.inFlow && !s.keyAllowed then .error (.plain .noMappingValue m)
    else
      let s := s.openBlock m.column none .blockMappingStart m
      .ok ({ s with keyAllowed := !s.inFlow }.pushMark .value 1)

/-- A token that may be a simple key and is followed by none. -/
def scanKeyLike (s : Lexer) (scan : Cursor → Scan TokenKind) : Except Fault Lexer :=
  match s.noteKey with
  | .error fault => .error fault
  | .ok s =>
    match scan s.cursor with
    | .error fault => .error fault
    | .ok (kind, c) =>
      .ok ({ s with cursor := c, keyAllowed := false }.push ⟨kind, s.cursor.mark, c.mark⟩)

def scanBlockScalar (s : Lexer) (literal : Bool) : Except Fault Lexer :=
  match s.dropKey with
  | .error fault => .error fault
  | .ok s => { s with keyAllowed := true }.pushScan (scanBlock literal s.indent s.cursor)

def scanQuotedScalar (s : Lexer) (single : Bool) : Except Fault Lexer :=
  match s.noteKey with
  | .error fault => .error fault
  | .ok s => { s with keyAllowed := false }.pushScan (scanQuoted single s.cursor)

/-- A plain scalar.  If a line ended behind it, a simple key may follow. -/
def scanPlainScalar (s : Lexer) : Except Fault Lexer :=
  match s.noteKey with
  | .error fault => .error fault
  | .ok s =>
    (scanPlain s.inFlow s.indent s.cursor).map fun ((t, newline), c) =>
      { s with cursor := c, keyAllowed := newline }.push t

/-- The characters that never start a plain scalar unless what follows allows it. -/
def isIndicator (x : Char) : Bool := "-?:,[]{}#&*!|>'\"%@\x60".toList.contains x

/-- Whether a plain scalar starts here. -/
def seesPlain (s : Lexer) (x : Char) : Bool :=
  let c := s.cursor
  !(isGap x || isBreak x || isIndicator x) ||
    (x == '-' && !(c.ahead? 1).any isGap) ||
    (!s.inFlow && (x == '?' || x == ':') && !c.wordEndsAt 1)

/-- Scans the token that stands here. -/
def scanHere (s : Lexer) : Except Fault Lexer :=
  let c := s.cursor
  match c.peek? with
  | none => s.scanEnd
  | some x =>
    if c.mark.column = 0 && x == '%' then s.scanDirective
    else if c.seesDocumentMark '-' then s.scanDocumentMark .documentStart
    else if c.seesDocumentMark '.' then s.scanDocumentMark .documentEnd
    else if x == '[' then s.scanFlowStart .flowSequenceStart
    else if x == '{' then s.scanFlowStart .flowMappingStart
    else if x == ']' then s.scanFlowEnd .flowSequenceEnd
    else if x == '}' then s.scanFlowEnd .flowMappingEnd
    else if x == ',' then s.scanFlowEntry
    else if x == '-' && c.wordEndsAt 1 then s.scanBlockEntry
    else if x == '?' && (s.inFlow || c.wordEndsAt 1) then s.scanKey
    else if x == ':' && (s.inFlow || c.wordEndsAt 1) then s.scanValue
    else if x == '*' then
      s.scanKeyLike fun c => (scanAnchorName .reference c).map fun (name, c) => (.reference name, c)
    else if x == '&' then
      s.scanKeyLike fun c => (scanAnchorName .anchor c).map fun (name, c) => (.anchor name, c)
    else if x == '!' then s.scanKeyLike (scanTag s.inFlow)
    else if x == '|' && !s.inFlow then s.scanBlockScalar true
    else if x == '>' && !s.inFlow then s.scanBlockScalar false
    else if x == '\'' then s.scanQuotedScalar true
    else if x == '"' then s.scanQuotedScalar false
    else if s.seesPlain x then s.scanPlainScalar
    else .error (.within .nextToken c.mark .cannotStartToken c.mark)

/-- Makes sure that the text can be read for some bytes behind a place. -/
def ensureReadable (s : Lexer) (m : Mark) (size : Nat) : Except Fault Unit :=
  match s.obstacle with
  | none => .ok ()
  | some o => if o.start < m.index + size then .error (.controlCharacter o.offset) else .ok ()

/-- Scans the token that stands here, if the text can be read up to where the scan
stops. -/
def scanReadable (s : Lexer) : Except Fault Lexer :=
  match s.scanHere with
  | .error fault =>
    match s.ensureReadable (fault.mark?.getD s.cursor.mark) 1 with
    | .error control => .error control
    | .ok () => .error fault
  | .ok s' => (s.ensureReadable s'.cursor.mark 1).map fun () => s'

/-- How many bytes are looked at to tell what token stands somewhere. -/
def lookahead : Nat := 4

/-- Scans the next token. -/
def fetch (s : Lexer) : Except Fault Lexer :=
  if !s.started then
    .ok ({ s with started := true, keyAllowed := true }.push
      ⟨.streamStart, s.cursor.mark, s.cursor.mark⟩)
  else do
    let s := skipToToken s.cursor.rest s
    s.ensureReadable s.cursor.mark 1
    let s ← s.dropStaleKeys
    s.ensureReadable s.cursor.mark lookahead
    (s.closeBlocks s.cursor.mark.column).scanReadable

/-! ## All tokens -/

/-- Whether the first token of the queue may still turn out to be a key. -/
def awaitsColon (s : Lexer) : Bool :=
  s.keys.any fun key => key.any fun key => key.number == s.delivered

/-- Scans until the first token of the queue is settled.  The fuel bounds the number
of tokens scanned. -/
def settle : Nat → Lexer → Except Fault Lexer
  | 0, s => .ok s
  | fuel + 1, s =>
    if s.queue.isEmpty then
      match s.fetch with
      | .error fault => .error fault
      | .ok s => settle fuel s
    else
      match s.dropStaleKeys with
      | .error fault => .error fault
      | .ok s =>
        if s.awaitsColon then
          match s.fetch with
          | .error fault => .error fault
          | .ok s => settle fuel s
        else .ok s

/-- Delivers the next token.  `bound` bounds the number of tokens scanned for it. -/
def next (bound : Nat) (s : Lexer) : Except Fault (Option Token × Lexer) :=
  match settle bound s with
  | .error fault => .error fault
  | .ok s =>
    match s.queue with
    | [] => .ok (none, s)
    | t :: rest => .ok (some t, { s with queue := rest, delivered := s.delivered + 1 })

/-- Delivers tokens up to the end of the text or the first fault.  The fuel bounds
their number. -/
def run (bound : Nat) : Nat → Lexer → List Token × Option Fault
  | 0, _ => ([], none)
  | fuel + 1, s =>
    match s.next bound with
    | .error fault => ([], some fault)
    | .ok (none, _) => ([], none)
    | .ok (some t, s) =>
      if t.kind = .streamEnd then ([t], none)
      else
        let (tokens, fault) := run bound fuel s
        (t :: tokens, fault)

end Lexer

/-- The tokens of a text and the fault that ends them, if there is one. -/
def tokens (text : List Char) : List Token × Option Fault :=
  Lexer.run (text.length + 3) (4 * text.length + 10)
    { cursor := ⟨text, .start⟩, obstacle := obstacle? 0 0 text }

end Yaml

end Decipher
