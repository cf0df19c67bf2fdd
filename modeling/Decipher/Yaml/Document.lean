import Decipher.Yaml.Event

/-!
# YAML documents

The first document of a text, as the events that describe its nodes.  A fault in the
text ends the events but does not undo them: it counts only for who asks for more.

An alias holds the number of its anchor.  A number belongs to the node that last took
it, which need not be the node that the name stood for where the alias was read: a
name that is used again takes the number of names known so far.
-/

namespace Decipher

namespace Yaml

/-- What stands at a place of a document. -/
inductive Node
  /-- An empty text has one document, with nothing in it. -/
  | nothing
  | reference (number : Nat)
  | scalar (s : Scalar)
  | sequenceStart
  | sequenceEnd
  | mappingStart
  | mappingEnd

/-- The nodes of a document in order, with their places. -/
abbrev Nodes := List (Node × Mark)

structure Document where
  nodes : Nodes
  /-- What ended the nodes before their time. -/
  fault : Option Fault
  /-- The number of nodes before the one with an anchor of some number; a later entry
  comes first. -/
  anchors : List (Nat × Nat)
  /-- Whether something follows that is not the end of the text. -/
  continued : Bool

namespace Document

/-- The anchors met so far: the numbers of names, and where the numbered nodes
stand. -/
structure Anchors where
  numbers : List (String × Nat) := []
  places : List (Nat × Nat) := []

/-- Notes an anchor at a place. -/
def Anchors.note (a : Anchors) (place : Nat) : Option String → Anchors
  | none => a
  | some name =>
    let number := a.numbers.length
    { numbers := (name, number) :: a.numbers.filter fun e => e.1 ≠ name
      places := (number, place) :: a.places }

/-- Collects the nodes of the first document. -/
def collect (fault : Option Fault) : List Event → Anchors → Nat → Document
  | [], a, _ => ⟨[], fault, a.places, false⟩
  | e :: rest, a, place =>
    let more (a : Anchors) (node : Node) : Document :=
      let d := collect fault rest a (place + 1)
      { d with nodes := (node, e.mark) :: d.nodes }
    match e.kind with
    | .documentStart => collect fault rest a place
    | .streamEnd =>
      ⟨if place = 0 then [(.nothing, e.mark)] else [], none, a.places, false⟩
    | .documentEnd =>
      match rest with
      | ⟨.streamEnd, _⟩ :: _ => ⟨[], none, a.places, false⟩
      | _ => ⟨[], none, a.places, true⟩
    | .reference name =>
      match a.numbers.lookup name with
      | some number => more a (.reference number)
      | none => ⟨[], some (.unknownAnchor e.mark), a.places, false⟩
    | .scalar anchor s => more (a.note place anchor) (.scalar s)
    | .sequenceStart anchor => more (a.note place anchor) .sequenceStart
    | .sequenceEnd => more a .sequenceEnd
    | .mappingStart anchor => more (a.note place anchor) .mappingStart
    | .mappingEnd => more a .mappingEnd

/-- The first document of a text. -/
def ofText (text : List Char) : Document :=
  let (events, fault) := events text
  collect fault events {} 0

/-- The nodes from an anchor on. -/
def nodesAt (d : Document) (number : Nat) : Nodes :=
  match d.anchors.lookup number with
  | some place => d.nodes.drop place
  | none => []

/-- Skips one node with all that is in it.  `depth` counts the collections that are
open. -/
def skipNode : Nat → Nodes → Option Nodes
  | _, [] => none
  | depth, (node, _) :: rest =>
    match node, depth with
    | .sequenceStart, _ => skipNode (depth + 1) rest
    | .mappingStart, _ => skipNode (depth + 1) rest
    | .sequenceEnd, depth + 2 => skipNode (depth + 1) rest
    | .mappingEnd, depth + 2 => skipNode (depth + 1) rest
    | .sequenceEnd, _ => some rest
    | .mappingEnd, _ => some rest
    | _, 0 => some rest
    | _, _ => skipNode depth rest

end Document

end Yaml

end Decipher
