import Decipher.Pool.Error
import Decipher.Script.Prune

/-!
# Verdicts of a transform

A transform is what a pool runs on its payloads.  A run ends in one of three ways, and
what is told about it is a text or the message of a failure.
-/

namespace Decipher

/-- How a run of a transform ended. -/
inductive Verdict
  | returned (output : String)
  | refused (e : PreprocessError)
  /-- The run was broken off, with a message if there is one. -/
  | crashed (message : Option String)

/-- What a slot tells about a run: the output, or why there is none. -/
abbrev Report := Except String String

/-- What a task's owner is told. -/
abbrev Answer := Except PoolError String

namespace Verdict

/-- What is said of a crash that left no message. -/
def unknownCrash : String := "unknown panic"

def report : Verdict → Report
  | returned output => .ok output
  | refused e => .error e.message
  | crashed message => .error ("transform panicked: " ++ message.getD unknownCrash)

def ofResult : Except PreprocessError String → Verdict
  | .ok output => returned output
  | .error e => refused e

end Verdict

/-- The answer that passes a report on. -/
def Report.answer (r : Report) : Answer := r.mapError .failed

end Decipher
