import Decipher.Yaml.Token.Lexer

/-!
# YAML events

The grammar of YAML turns tokens into events: scalars, aliases, and the starts and
ends of collections and documents.  It runs on a stack of goals; each step works on
the first goal and yields one event.  Where a node may be left out, an empty plain
scalar stands for it.
-/

namespace Decipher

namespace Yaml

/-- The anchor and the tag in front of a node. -/
structure Properties where
  anchor : Option String := none
  tag : Option String := none

/-- A scalar and how it was written. -/
structure Scalar where
  text : String
  style : ScalarStyle
  tag : Option String

inductive EventKind
  | documentStart
  | documentEnd
  | streamEnd
  | reference (name : String)
  | scalar (anchor : Option String) (s : Scalar)
  | sequenceStart (anchor : Option String)
  | sequenceEnd
  | mappingStart (anchor : Option String)
  | mappingEnd

/-- An event and the place where it starts. -/
structure Event where
  kind : EventKind
  mark : Mark

/-- What the grammar expects next. -/
inductive Goal
  | stream
  | document (first : Bool)
  | documentContent
  | documentEnd
  | blockNode (indentless : Bool)
  | flowNode
  | blockEntry (first : Bool)
  | indentlessEntry
  | blockKey (first : Bool)
  | blockValue
  | flowEntry (first : Bool)
  | pairKey
  | pairValue
  | pairEnd
  | flowKey (first : Bool)
  | flowValue (omitted : Bool)

structure Grammar where
  tokens : List Token
  /-- What ends the tokens. -/
  fault : Option Fault
  goals : List Goal := [.stream]
  /-- Where the open collections start, innermost first. -/
  starts : List Mark := []
  /-- The handles of tags and what they stand for. -/
  handles : List (String × String) := []

namespace Grammar

/-! ## Tokens -/

/-- The next token. -/
def peek (g : Grammar) : Except Fault Token :=
  match g.tokens with
  | t :: _ => .ok t
  | [] => .error (g.fault.getD (.plain .noNode .start))

/-- Takes the next token. -/
def skip (g : Grammar) : Grammar := { g with tokens := g.tokens.tail }

/-- Puts a goal in front of the others. -/
def want (g : Grammar) (goal : Goal) : Grammar := { g with goals := goal :: g.goals }

/-- Notes where a collection starts. -/
def enter (g : Grammar) (mark : Mark) : Grammar := { g with starts := mark :: g.starts }

/-- Forgets the innermost collection. -/
def leave (g : Grammar) : Grammar := { g with starts := g.starts.tail }

/-- The problem of a token inside the innermost collection. -/
def problem (g : Grammar) (context : Context) (p : Problem) (t : Token) : Fault :=
  .within context (g.starts.headD .start) p t.start

/-- What a step yields. -/
abbrev Step := Except Fault (Event × Grammar)

def emit (kind : EventKind) (mark : Mark) (g : Grammar) : Step := .ok (⟨kind, mark⟩, g)

/-- The empty scalar that stands for a node that was left out. -/
def emitEmpty (mark : Mark) (g : Grammar) : Step :=
  emit (.scalar none ⟨"", .plain, none⟩) mark g

/-- Ends a collection with its closing token. -/
def emitEnd (kind : EventKind) (t : Token) (g : Grammar) : Step :=
  emit kind t.start g.leave.skip

/-! ## Nodes -/

/-- The handles that every document knows. -/
def standardHandles : List (String × String) := [("!", "!"), ("!!", "tag:yaml.org,2002:")]

/-- The tag that a handle and a suffix stand for. -/
def resolveTag (g : Grammar) (handle suffix : String) : Option String :=
  if handle.isEmpty then some suffix
  else ((g.handles ++ standardHandles).lookup handle).map fun uri => uri ++ suffix

/-- Makes sure that a token follows: the text may turn out to be faulty behind a
property, before it is known whether there are more. -/
def ensure (g : Grammar) : Except Fault Grammar := g.peek.map fun _ => g

/-- An anchor in front of a node, if one stands here. -/
def takeAnchor (g : Grammar) : Except Fault (Option String × Grammar) :=
  match g.tokens with
  | ⟨.anchor name, _, _⟩ :: _ => g.skip.ensure.map fun g => (some name, g)
  | _ => .ok (none, g)

/-- A tag in front of a node, if one stands here: its handle, its suffix and its
place. -/
def takeTag (g : Grammar) : Except Fault (Option (String × String × Mark) × Grammar) :=
  match g.tokens with
  | ⟨.tag handle suffix, mark, _⟩ :: _ =>
    g.skip.ensure.map fun g => (some (handle, suffix, mark), g)
  | _ => .ok (none, g)

/-- The anchor and the tag in front of a node, in either order.  The handle of the tag
is looked up when both were read. -/
def takeProperties (start : Mark) (g : Grammar) : Except Fault (Properties × Grammar) := do
  let (before, g) ← g.takeAnchor
  let (tag, g) ← g.takeTag
  let (anchor, g) ← if before.isSome then .ok (before, g) else g.takeAnchor
  match tag with
  | none => return (⟨anchor, none⟩, g)
  | some (handle, suffix, mark) =>
    match g.resolveTag handle suffix with
    | some tag => return (⟨anchor, some tag⟩, g)
    | none => .error (.within .node start .undefinedTagHandle mark)

/-- The tag that a scalar keeps: the one that only asks for the default is dropped. -/
def scalarTag (tag : Option String) : Option String :=
  if tag == some "!" then none else tag

/-- A node that is no alias, behind its properties. -/
def stepContent (block indentless : Bool) (p : Properties) (start : Mark) (t : Token)
    (g : Grammar) : Step :=
  let problemHere : Fault :=
    .within (if block then .blockNode else .flowNode) start .noNode t.start
  let omitted : Step :=
    if p.anchor.isSome || p.tag.isSome then
      emit (.scalar p.anchor ⟨"", .plain, p.tag⟩) start g
    else .error problemHere
  match t.kind with
  | .blockEntry =>
    if indentless then emit (.sequenceStart p.anchor) start (g.want .indentlessEntry) else omitted
  | .scalar text style =>
    emit (.scalar p.anchor ⟨text, style, scalarTag p.tag⟩) start g.skip
  | .flowSequenceStart => emit (.sequenceStart p.anchor) start (g.want (.flowEntry true))
  | .flowMappingStart => emit (.mappingStart p.anchor) start (g.want (.flowKey true))
  | .blockSequenceStart =>
    if block then emit (.sequenceStart p.anchor) start (g.want (.blockEntry true)) else omitted
  | .blockMappingStart =>
    if block then emit (.mappingStart p.anchor) start (g.want (.blockKey true)) else omitted
  | _ => omitted

/-- A node. -/
def stepNode (block indentless : Bool) (g : Grammar) : Step := do
  let first ← g.peek
  match first.kind with
  | .reference name => emit (.reference name) first.start g.skip
  | _ =>
    let (p, g) ← takeProperties first.start g
    let t ← g.peek
    stepContent block indentless p first.start t g

/-! ## Documents -/

/-- Whether a version can be read. -/
def isKnownVersion (major minor : Nat) : Bool := major == 1 && (minor == 1 || minor == 2)

/-- The directives in front of a document.  `versioned` tells whether there was a
version before.  The fuel bounds their number. -/
def takeDirectives : Nat → Bool → Grammar → Except Fault Grammar
  | 0, _, g => .ok g
  | fuel + 1, versioned, g =>
    match g.peek with
    | .error fault => .error fault
    | .ok t =>
      match t.kind with
      | .version major minor =>
        if versioned then .error (.plain .duplicateVersion t.start)
        else if isKnownVersion major minor then takeDirectives fuel true g.skip
        else .error (.plain .incompatibleVersion t.start)
      | .tagHandle handle uri =>
        if (g.handles.lookup handle).isSome then .error (.plain .duplicateTagHandle t.start)
        else
          takeDirectives fuel versioned { g with handles := g.handles ++ [(handle, uri)] }.skip
      | _ => .ok g

/-- Skips the ends of documents that were ended before.  The fuel bounds their
number. -/
def skipDocumentEnds : Nat → Grammar → Except Fault Grammar
  | 0, g => .ok g
  | fuel + 1, g =>
    match g.peek with
    | .error fault => .error fault
    | .ok t => if t.kind = .documentEnd then skipDocumentEnds fuel g.skip else .ok g

/-- Whether a token can only start an explicit document. -/
def startsExplicit : TokenKind → Bool
  | .version _ _ => true
  | .tagHandle _ _ => true
  | .documentStart => true
  | _ => false

/-- A document that starts with its directives and its mark. -/
def stepExplicit (g : Grammar) : Step := do
  let first ← g.peek
  let g ← takeDirectives (g.tokens.length + 1) false g
  let t ← g.peek
  if t.kind = .documentStart then
    emit .documentStart first.start (({ g with goals := [] }.want .documentEnd).want
      .documentContent).skip
  else .error (.plain .noDocumentStart t.start)

/-- The start of a document, or the end of the stream.  Only the first document can
do without its mark. -/
def stepDocument (first : Bool) (g : Grammar) : Step := do
  let g ← if first then .ok g else skipDocumentEnds (g.tokens.length + 1) g
  let t ← g.peek
  if t.kind = .streamEnd then emit .streamEnd t.start g.skip
  else if first && !startsExplicit t.kind then
    emit .documentStart t.start ({ g with goals := [.blockNode false, .documentEnd] })
  else stepExplicit g

/-- Whether a document is over where its content could start. -/
def endsContent : TokenKind → Bool
  | .streamEnd => true
  | .documentEnd => true
  | k => startsExplicit k

/-- The content of a document behind its mark. -/
def stepDocumentContent (g : Grammar) : Step := do
  let t ← g.peek
  if endsContent t.kind then emitEmpty t.start g else stepNode true false g

/-- The end of a document. -/
def stepDocumentEnd (g : Grammar) : Step := do
  let t ← g.peek
  let g := if t.kind = .documentEnd then g.skip else g
  emit .documentEnd t.start { g with goals := [.document false], handles := [] }

/-! ## Block collections -/

/-- An entry of a block sequence, or its end. -/
def stepBlockEntry (first : Bool) (g : Grammar) : Step := do
  let g ← if first then g.peek.map fun t => (g.enter t.start).skip else .ok g
  let t ← g.peek
  match t.kind with
  | .blockEntry =>
    let g := g.skip.want (.blockEntry false)
    let next ← g.peek
    if next.kind = .blockEntry ∨ next.kind = .blockEnd then emitEmpty t.stop g
    else stepNode true false g
  | .blockEnd => emitEnd .sequenceEnd t g
  | _ => .error (g.problem .blockSequence .noDash t)

/-- An entry of a sequence that is not indented below its key, or its end. -/
def stepIndentlessEntry (g : Grammar) : Step := do
  let t ← g.peek
  match t.kind with
  | .blockEntry =>
    let g := g.skip.want .indentlessEntry
    let next ← g.peek
    match next.kind with
    | .blockEntry => emitEmpty t.stop g
    | .key => emitEmpty t.stop g
    | .value => emitEmpty t.stop g
    | .blockEnd => emitEmpty t.stop g
    | _ => stepNode true false g
  | _ => emit .sequenceEnd t.start g

/-- Whether the key or the value of a block mapping is left out. -/
def omitsBlockNode : TokenKind → Bool
  | .key => true
  | .value => true
  | .blockEnd => true
  | _ => false

/-- The next key of a block mapping, or its end. -/
def stepBlockKey (first : Bool) (g : Grammar) : Step := do
  let g ← if first then g.peek.map fun t => (g.enter t.start).skip else .ok g
  let t ← g.peek
  match t.kind with
  | .key =>
    let g := g.skip.want .blockValue
    let next ← g.peek
    if omitsBlockNode next.kind then emitEmpty t.stop g else stepNode true true g
  | .blockEnd => emitEnd .mappingEnd t g
  | _ => .error (g.problem .blockMapping .noKey t)

/-- The value of a block mapping. -/
def stepBlockValue (g : Grammar) : Step := do
  let t ← g.peek
  let g := g.want (.blockKey false)
  match t.kind with
  | .value =>
    let g := g.skip
    let next ← g.peek
    if omitsBlockNode next.kind then emitEmpty t.stop g else stepNode true true g
  | _ => emitEmpty t.start g

/-! ## Flow collections -/

/-- Takes the comma between two elements of a flow collection. -/
def takeComma (first : Bool) (context : Context) (p : Problem) (t : Token) (g : Grammar) :
    Except Fault Grammar :=
  if first then .ok g
  else if t.kind = .flowEntry then g.skip.ensure
  else .error (g.problem context p t)

/-- An entry of a flow sequence, or its end.  A single pair of a key and a value is an
entry too. -/
def stepFlowEntry (first : Bool) (g : Grammar) : Step := do
  let g ← if first then g.peek.map fun t => (g.enter t.start).skip else .ok g
  let t ← g.peek
  if t.kind = .flowSequenceEnd then emitEnd .sequenceEnd t g
  else
    let g ← takeComma first .flowSequence .noCommaOrBracket t g
    let t ← g.peek
    match t.kind with
    | .key => emit (.mappingStart none) t.start ((g.want (.flowEntry false)).want .pairKey).skip
    | .flowSequenceEnd => emitEnd .sequenceEnd t g
    | _ => stepNode false false (g.want (.flowEntry false))

/-- The key of a single pair.  Where it is left out, the token behind it counts as
read. -/
def stepPairKey (g : Grammar) : Step := do
  let t ← g.peek
  let g := g.want .pairValue
  match t.kind with
  | .value => emitEmpty t.stop g.skip
  | .flowEntry => emitEmpty t.stop g.skip
  | .flowSequenceEnd => emitEmpty t.stop g.skip
  | _ => stepNode false false g

/-- The value of a single pair. -/
def stepPairValue (g : Grammar) : Step := do
  let t ← g.peek
  let g := g.want .pairEnd
  match t.kind with
  | .value =>
    let g := g.skip
    let next ← g.peek
    if next.kind = .flowEntry ∨ next.kind = .flowSequenceEnd then emitEmpty next.start g
    else stepNode false false g
  | _ => emitEmpty t.start g

/-- The end of a single pair. -/
def stepPairEnd (g : Grammar) : Step := do
  let t ← g.peek
  emit .mappingEnd t.start g

/-- The next key of a flow mapping, or its end. -/
def stepFlowKey (first : Bool) (g : Grammar) : Step := do
  let g ← if first then g.peek.map fun t => (g.enter t.start).skip else .ok g
  let t ← g.peek
  if t.kind = .flowMappingEnd then emitEnd .mappingEnd t g
  else
    let g ← takeComma first .flowMapping .noCommaOrBrace t g
    let t ← g.peek
    match t.kind with
    | .key =>
      let g := (g.want (.flowValue false)).skip
      let next ← g.peek
      match next.kind with
      | .value => emitEmpty next.start g
      | .flowEntry => emitEmpty next.start g
      | .flowMappingEnd => emitEmpty next.start g
      | _ => stepNode false false g
    | .flowMappingEnd => emitEnd .mappingEnd t g
    | _ => stepNode false false (g.want (.flowValue true))

/-- The value of a flow mapping. -/
def stepFlowValue (omitted : Bool) (g : Grammar) : Step := do
  let t ← g.peek
  let g := g.want (.flowKey false)
  if omitted then emitEmpty t.start g
  else
    match t.kind with
    | .value =>
      let g := g.skip
      let next ← g.peek
      if next.kind = .flowEntry ∨ next.kind = .flowMappingEnd then emitEmpty next.start g
      else stepNode false false g
    | _ => emitEmpty t.start g

/-! ## Runs -/

/-- Works on the first goal; nothing, where none is left. -/
def step (g : Grammar) : Option Step :=
  match g.goals with
  | [] => none
  | goal :: goals =>
    let g := { g with goals := goals }
    some <| match goal with
      | .stream => stepDocument true g.skip
      | .document first => stepDocument first g
      | .documentContent => stepDocumentContent g
      | .documentEnd => stepDocumentEnd g
      | .blockNode indentless => stepNode true indentless g
      | .flowNode => stepNode false false g
      | .blockEntry first => stepBlockEntry first g
      | .indentlessEntry => stepIndentlessEntry g
      | .blockKey first => stepBlockKey first g
      | .blockValue => stepBlockValue g
      | .flowEntry first => stepFlowEntry first g
      | .pairKey => stepPairKey g
      | .pairValue => stepPairValue g
      | .pairEnd => stepPairEnd g
      | .flowKey first => stepFlowKey first g
      | .flowValue omitted => stepFlowValue omitted g

/-- Yields events up to the last goal or the first fault.  The fuel bounds their
number. -/
def run : Nat → Grammar → List Event × Option Fault
  | 0, _ => ([], none)
  | fuel + 1, g =>
    match g.step with
    | none => ([], none)
    | some (.error fault) => ([], some fault)
    | some (.ok (event, g)) =>
      let (events, fault) := run fuel g
      (event :: events, fault)

end Grammar

/-- The events of a text and the fault that ends them, if there is one. -/
def events (text : List Char) : List Event × Option Fault :=
  let (tokens, fault) := tokens text
  Grammar.run (4 * tokens.length + 10) { tokens := tokens, fault := fault }

end Yaml

end Decipher
