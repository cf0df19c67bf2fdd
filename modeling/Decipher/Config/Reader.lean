import Decipher.Config.Basic
import Decipher.Yaml.Document
import Decipher.Yaml.Scalar

/-!
# Reading a configuration

A configuration is a YAML mapping from the names of settings to their values.  A
setting that is not there keeps its default, a name that is not known is skipped with
its value, and a setting may not stand twice.  An empty document is a configuration
too.
-/

namespace Decipher

namespace Config

/-- Where in a configuration a value stands. -/
inductive ValuePath
  | whole
  | setting (name : String)
  /-- The value of a key that is no text of its own. -/
  | unnamed

/-- The words in front of a message about a value. -/
def ValuePath.label : ValuePath → String
  | whole => ""
  | setting name => name ++ ": "
  | unnamed => "?: "

/-- Why a text is no configuration. -/
inductive ReadError
  | yaml (fault : Yaml.Fault)
  | endOfDocument
  | severalDocuments
  | badValue (path : ValuePath) (problem : String) (mark : Yaml.Mark)

def ReadError.message : ReadError → String
  | yaml fault => fault.message
  | endOfDocument => "EOF while parsing a value"
  | severalDocuments =>
    "deserializing from YAML containing more than one document is not supported"
  | badValue path problem mark => mark.annotate (path.label ++ problem)

open Yaml (Document Node Nodes Scalar Mark)

/-! ## Values -/

/-- What is found where something else was expected, in words. -/
def wrongNode (expected : String) : Node → String
  | .scalar s =>
    match s.meaning with
    | .ok m => "invalid type: " ++ m.label ++ ", expected " ++ expected
    | .error wanted => "invalid value: string " ++ quote s.text ++ ", expected " ++ wanted
  | .sequenceStart => "invalid type: sequence, expected " ++ expected
  | .mappingStart => "invalid type: map, expected " ++ expected
  | _ => "invalid type: unit value, expected " ++ expected

/-- What ends the reading where nodes are missing. -/
def missing (d : Document) : ReadError :=
  match d.fault with
  | some fault => .yaml fault
  | none => .endOfDocument

/-- The node that stands at a place or that the alias there stands for. -/
def target (d : Document) (node : Node) (mark : Mark) : Option (Node × Mark) :=
  match node with
  | .reference number => (d.nodesAt number).head?
  | _ => some (node, mark)

/-- A value that a scalar holds, and the nodes behind it. -/
def readScalar {α : Type} (d : Document) (path : ValuePath) (expected : String)
    (value? : Scalar → Option α) (nodes : Nodes) : Except ReadError (α × Nodes) :=
  match nodes with
  | [] => .error (missing d)
  | (node, mark) :: rest =>
    match target d node mark with
    | none => .error (missing d)
    | some (.scalar s, mark) =>
      match value? s with
      | some x => .ok (x, rest)
      | none => .error (.badValue path (wrongNode expected (.scalar s)) mark)
    | some (node, mark) => .error (.badValue path (wrongNode expected node) mark)

/-- A natural of 64 bits. -/
def readWord (d : Document) (path : ValuePath) (expected : String) (nodes : Nodes) :
    Except ReadError (Nat × Nodes) :=
  readScalar d path expected (Scalar.natural? (Nat.pow 2 64)) nodes

/-- A text: that of any scalar, as it is written. -/
def readText (d : Document) (path : ValuePath) (expected : String) (nodes : Nodes) :
    Except ReadError (String × Nodes) :=
  readScalar d path expected (fun s => some s.text) nodes

/-! ## Settings -/

/-- The settings that were read so far. -/
structure Partial where
  concurrency : Option Nat := none
  taskTimeout : Option Nat := none
  maxPayload : Option Nat := none
  cacheDir : Option String := none

/-- A configuration with defaults for what was not read. -/
def Partial.complete (known : Partial) : Config :=
  { concurrency := known.concurrency.getD ({} : Config).concurrency
    taskTimeout := known.taskTimeout.getD ({} : Config).taskTimeout
    maxPayload := known.maxPayload.getD ({} : Config).maxPayload
    cacheDir := known.cacheDir.getD ({} : Config).cacheDir }

/-- What messages call a configuration. -/
def label : String := "struct SolverConfig"

/-- The value of a setting, unless it was read before.  `start` is where the mapping
starts. -/
def readSetting {α : Type} (start : Mark) (name : String) (known : Option α)
    (read : Nodes → Except ReadError (α × Nodes)) (nodes : Nodes) :
    Except ReadError (α × Nodes) :=
  if known.isSome then
    .error (.badValue .whole ("duplicate field `" ++ name ++ "`") start)
  else read nodes

/-- Takes the value of a name. -/
def readValue (d : Document) (start : Mark) (path : ValuePath) (name : String) (known : Partial)
    (nodes : Nodes) : Except ReadError (Partial × Nodes) :=
  if name = "concurrency" then
    (readSetting start name known.concurrency (readWord d path "usize") nodes).map
      fun (n, rest) => ({ known with concurrency := some n }, rest)
  else if name = "task_timeout_ms" then
    (readSetting start name known.taskTimeout (readWord d path "u64") nodes).map
      fun (n, rest) => ({ known with taskTimeout := some n }, rest)
  else if name = "max_payload_bytes" then
    (readSetting start name known.maxPayload (readWord d path "usize") nodes).map
      fun (n, rest) => ({ known with maxPayload := some n }, rest)
  else if name = "cache_dir" then
    (readSetting start name known.cacheDir (readText d path "path string") nodes).map
      fun (s, rest) => ({ known with cacheDir := some s }, rest)
  else
    match Document.skipNode 0 nodes with
    | some rest => .ok (known, rest)
    | none => .error (missing d)

/-- Where the value of a key stands. -/
def pathOf : Node → ValuePath
  | .scalar s => .setting s.text
  | _ => .unnamed

/-- The settings of a mapping, up to its end.  The fuel bounds their number. -/
def readSettings (d : Document) (start : Mark) :
    Nat → Partial → Nodes → Except ReadError Partial
  | 0, _, _ => .error (missing d)
  | _, _, [] => .error (missing d)
  | fuel + 1, known, (node, mark) :: rest =>
    match node with
    | .mappingEnd => .ok known
    | _ =>
      match readText d .whole "field identifier" ((node, mark) :: rest) with
      | .error e => .error e
      | .ok (name, rest) =>
        match readValue d start (pathOf node) name known rest with
        | .error e => .error e
        | .ok (known, rest) => readSettings d start fuel known rest

/-- Whether a document leaves everything at its default. -/
def isEmptyNode : Node → Bool
  | .nothing => true
  | .scalar s => s.text.isEmpty && s.style = .plain
  | _ => false

/-- The configuration of a document. -/
def ofDocument (d : Document) : Except ReadError Config :=
  match d.nodes with
  | [] => .error (missing d)
  | (node, mark) :: rest =>
    match node with
    | .mappingStart =>
      (readSettings d mark (rest.length + 1) {} rest).map Partial.complete
    | node =>
      if isEmptyNode node then .ok {}
      else .error (.badValue .whole (wrongNode label node) mark)

/-- The configuration that a text holds. -/
def ofYaml (text : String) : Except ReadError Config :=
  let d := Document.ofText text.toList
  match ofDocument d with
  | .error e => .error e
  | .ok c =>
    match d.fault with
    | some fault => .error (.yaml fault)
    | none => if d.continued then .error .severalDocuments else .ok c

end Config

end Decipher
