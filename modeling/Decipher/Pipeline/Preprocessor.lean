import Decipher.Pool.Verdict

/-!
# Preprocessors

What turns a source into the text of a syntax tree that solvers can be extracted from.  The
one in service prunes; the others show how a pipeline fares with a preprocessor that does
nothing, breaks down, or never ends.
-/

namespace Decipher

inductive Preprocessor
  /-- Prunes scripts of at most so many bytes. -/
  | prunes (limit : Nat)
  | echoes
  /-- Breaks down with the source as message. -/
  | crashes
  /-- Works until it is cancelled. -/
  | stalls

namespace Preprocessor

/-- A run that is not cancelled. -/
def verdict? : Preprocessor → String → Option Verdict
  | prunes limit, source => some (.ofResult (Prune.run limit (fun _ => false) source))
  | echoes, source => some (.returned source)
  | crashes, source => some (.crashed (some source))
  | stalls, _ => none

/-- What the owner of a source is told by a pool with a free slot: a run that does not end is
cancelled when the time is up. -/
def answer (p : Preprocessor) (timeout : Nat) (source : String) : Answer :=
  match p.verdict? source with
  | some verdict => verdict.report.answer
  | none => .error (.timeout timeout)

end Preprocessor

end Decipher
