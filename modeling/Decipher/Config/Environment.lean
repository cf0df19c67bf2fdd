import Decipher.Config.Basic
import Decipher.Text.Blank
import Decipher.Text.Word

/-!
# Settings from the environment

Two environment variables override settings.  A variable that holds no number is as
good as unset, and so is a number of slots that is zero.
-/

namespace Decipher

/-- The variables of an environment and their values. -/
abbrev Environment := List (String × String)

namespace Config

/-- The variable that sets the number of slots. -/
def concurrencyVariable : String := "MAX_THREADS"

/-- The variable that sets the timeout. -/
def timeoutVariable : String := "WORKER_TASK_TIMEOUT"

/-- The word that a variable holds, between blanks. -/
def numberOf (env : Environment) (name : String) : Option Nat :=
  (env.lookup name).bind fun value => word? (trimChars value.toList)

/-- A configuration with the settings that the environment overrides. -/
def withEnvironment (env : Environment) (c : Config) : Config :=
  let c := match numberOf env concurrencyVariable with
    | some n => if 0 < n then { c with concurrency := n } else c
    | none => c
  match numberOf env timeoutVariable with
  | some n => { c with taskTimeout := n }
  | none => c

end Config

end Decipher
