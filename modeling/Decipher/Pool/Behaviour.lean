import Decipher.Pool.Move
import Decipher.Text.Word

/-!
# Scripted transforms

For a rehearsal the payload itself says how the transform behaves on it: a verb, and
behind a colon what the verb needs.  Most verbs return at once.  Others wait: for the
cancel flag, for a name to be released, or for others who meet under a name.
-/

namespace Decipher

/-- What a meeting hands to those who took part. -/
inductive MeetingResult
  | greeting
  /-- The name of the worker's thread. -/
  | seat

inductive Behaviour
  | ends (verdict : Verdict)
  /-- Returns the name of the worker's thread. -/
  | tellsSlot
  /-- Returns whether the cancel flag is raised. -/
  | tellsFlag
  | prunes (source : String)
  /-- Waits for the cancel flag. -/
  | stalls
  /-- Waits for a name to be released, whatever the cancel flag. -/
  | holds (name : String)
  /-- Waits until a meeting has come about under a name, or for the cancel flag.  So many
  who come make one. -/
  | meets (name : String) (count : Nat) (result : MeetingResult)

namespace Behaviour

/-- A text up to its first colon, and the rest. -/
def splitColon (cs : List Char) : List Char × List Char :=
  (cs.takeWhile (· ≠ ':'), (cs.dropWhile (· ≠ ':')).drop 1)

/-- The number that a text writes, or one. -/
def countOf (cs : List Char) : Nat := (word? cs).getD 1

/-- A name and the number behind it. -/
def meeting (result : MeetingResult) (rest : List Char) : Behaviour :=
  let (name, count) := splitColon rest
  meets (String.ofList name) (countOf count) result

/-- The longest text that fits, in bytes. -/
def fittingSize : Nat := 8

/-- The longest script that is pruned, in bytes. -/
def pruneLimit : Nat := 100000

/-- Whether a text is short enough. -/
def fits (source : String) : Verdict :=
  .ofResult ((Prune.checkSize source fittingSize).map fun () => "fits")

/-- How a transform behaves on a payload. -/
def ofPayload (payload : String) : Behaviour :=
  let (verb, rest) := splitColon payload.toList
  let text := String.ofList rest
  match String.ofList verb with
  | "echo" => ends (.returned text)
  | "fail" => ends (.refused (.other text))
  | "size" => ends (fits text)
  | "panic" => ends (.crashed (some text))
  | "panic_str" => ends (.crashed (some "static panic"))
  | "panic_any" => ends (.crashed none)
  | "slot" => tellsSlot
  | "flag" => tellsFlag
  | "estree" => prunes text
  | "stall" => stalls
  | "hold" => holds text
  | "meet" => meeting .greeting rest
  | "seat" => meeting .seat rest
  | _ => ends (.refused .empty)

/-- The name of the thread of a slot's worker. -/
def threadName (slot : Nat) (generation : UInt32) : String :=
  "sigsmith-slot-" ++ toString slot ++ "." ++ toString generation

/-- What a worker can see while it runs. -/
structure Surroundings where
  slot : Nat
  generation : UInt32
  /-- Whether the cancel flag is raised. -/
  cancelled : Bool
  /-- The names that were released. -/
  released : List String
  /-- Whether a meeting has come about under a name.  It stays open for those who come
  later. -/
  isMet : String → Bool

/-- The verdict of a transform, once it does not wait any more. -/
def verdict? (s : Surroundings) : Behaviour → Option Verdict
  | ends verdict => some verdict
  | tellsSlot => some (.returned (threadName s.slot s.generation))
  | tellsFlag => some (.returned (if s.cancelled then "true" else "false"))
  | prunes source => some (.ofResult (Prune.run pruneLimit (fun _ => s.cancelled) source))
  | stalls => if s.cancelled then some (.refused .cancelled) else none
  | holds name => if s.released.contains name then some (.returned name) else none
  | meets name _ result =>
    if s.isMet name then
      match result with
      | .greeting => some (.returned ("met " ++ name))
      | .seat => some (.returned (threadName s.slot s.generation))
    else if s.cancelled then some (.refused .cancelled)
    else none

end Behaviour

end Decipher
