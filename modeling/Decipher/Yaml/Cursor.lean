/-!
# Places in a YAML text

A `Cursor` is the rest of a text together with the place where it starts.  Columns
are counted in characters and distances in bytes, both from zero; a line can end in
any of the five line breaks of YAML, of which a carriage return and the line feed
behind it are one.
-/

namespace Decipher

namespace Yaml

/-- A place: the number of bytes and of lines before it, and of characters before it
on its line. -/
structure Mark where
  index : Nat
  line : Nat
  column : Nat
  deriving DecidableEq

namespace Mark

/-- The start of a text. -/
def start : Mark := ⟨0, 0, 0⟩

/-- Whether a place is worth naming: the start of the first line is not. -/
def isNamed (m : Mark) : Bool := m.line ≠ 0 || m.column ≠ 0

/-- How a place is named in a message, counted from one. -/
def label (m : Mark) : String :=
  "line " ++ toString (m.line + 1) ++ " column " ++ toString (m.column + 1)

/-- A message and the place it is about, if that is worth naming. -/
def annotate (message : String) (m : Mark) : String :=
  if m.isNamed then message ++ " at " ++ m.label else message

/-- The place behind a character that is no line break. -/
def next (m : Mark) (x : Char) : Mark := ⟨m.index + x.utf8Size, m.line, m.column + 1⟩

/-- The place behind a line break of some bytes. -/
def nextLine (m : Mark) (size : Nat) : Mark := ⟨m.index + size, m.line + 1, 0⟩

end Mark

/-! ## Classes of characters -/

def isBreak (c : Char) : Bool :=
  c == '\n' || c == '\r' || c == '\u0085' || c == '\u2028' || c == '\u2029'

/-- A space or a tab. -/
def isGap (c : Char) : Bool := c == ' ' || c == '\t'

/-- A character that can stand in a name. -/
def isNameChar (c : Char) : Bool := c.isAlphanum || c == '_' || c == '-'

/-! ## Cursors -/

/-- The rest of a text and the place where it starts. -/
structure Cursor where
  rest : List Char
  mark : Mark

namespace Cursor

/-- The character some way ahead. -/
def ahead? (c : Cursor) (offset : Nat) : Option Char := c.rest[offset]?

/-- The next character. -/
def peek? (c : Cursor) : Option Char := c.rest.head?

def atEnd (c : Cursor) : Bool := c.rest.isEmpty

/-- Whether the next character is a given one. -/
def sees (c : Cursor) (x : Char) : Bool := c.peek? == some x

/-- Whether the next character is in a class; the end of a text is in none. -/
def seesAny (c : Cursor) (p : Char → Bool) : Bool := (c.peek?.map p).getD false

/-- Whether a word ends some way ahead: there is a gap, a line break or the end. -/
def wordEndsAt (c : Cursor) (offset : Nat) : Bool :=
  match c.ahead? offset with
  | none => true
  | some x => isGap x || isBreak x

/-- Whether a line ends here. -/
def lineEnds (c : Cursor) : Bool :=
  match c.peek? with
  | none => true
  | some x => isBreak x

/-- The cursor behind a character that is no line break. -/
def skip (c : Cursor) : Cursor :=
  match c.rest with
  | [] => c
  | x :: rest => ⟨rest, c.mark.next x⟩

/-- The cursor behind some characters that are no line breaks. -/
def skipN : Nat → Cursor → Cursor
  | 0, c => c
  | n + 1, c => skipN n c.skip

/-- Takes the characters of a class that stand here; there are no line breaks in
the class. -/
def takeWhile (p : Char → Bool) (c : Cursor) : List Char × Cursor :=
  go c.rest c.mark
where
  go : List Char → Mark → List Char × Cursor
    | [], m => ([], ⟨[], m⟩)
    | x :: rest, m =>
      if p x then
        let (xs, c) := go rest (m.next x)
        (x :: xs, c)
      else ([], ⟨x :: rest, m⟩)

/-- The cursor behind the characters of a class. -/
def skipWhile (p : Char → Bool) (c : Cursor) : Cursor := (c.takeWhile p).2

/-- Takes a line break, if one stands here, as it enters a scalar: the breaks of
plain text as a line feed, the two Unicode separators as they are. -/
def takeBreak (c : Cursor) : List Char × Cursor :=
  match c.rest with
  | '\r' :: '\n' :: rest => (['\n'], ⟨rest, c.mark.nextLine 2⟩)
  | x :: rest =>
    if x == '\u2028' || x == '\u2029' then ([x], ⟨rest, c.mark.nextLine x.utf8Size⟩)
    else if isBreak x then (['\n'], ⟨rest, c.mark.nextLine x.utf8Size⟩)
    else ([], c)
  | [] => ([], c)

/-- The cursor behind a line break, if one stands here. -/
def skipBreak (c : Cursor) : Cursor := c.takeBreak.2

/-- The cursor behind a comment, if one stands here. -/
def skipComment (c : Cursor) : Cursor :=
  if c.sees '#' then c.skipWhile fun x => !isBreak x else c

/-- Whether a line of a given mark, three times, and the end of a word stand at the
start of a line here. -/
def seesDocumentMark (c : Cursor) (x : Char) : Bool :=
  c.mark.column == 0 && c.rest.take 3 == [x, x, x] && c.wordEndsAt 3

end Cursor

end Yaml

end Decipher
