/-!
# Errors of a pool

What a task's owner can be told in place of a result.
-/

namespace Decipher

inductive PoolError
  /-- The transform failed. -/
  | failed (message : String)
  /-- The transform took too long. -/
  | timeout (milliseconds : Nat)
  /-- The payload could not be handed to a slot. -/
  | submission (slot : Nat) (reason : String)
  /-- A pool of no slots was asked for. -/
  | noSlots
  /-- The pool is gone. -/
  | closed
  deriving DecidableEq

namespace PoolError

def message : PoolError → String
  | failed message => "worker task failed: " ++ message
  | timeout milliseconds => "worker task timeout after " ++ toString milliseconds ++ "ms"
  | submission slot reason =>
    "failed to post payload to slot " ++ toString slot ++ ": " ++ reason
  | noSlots => "worker pool needs at least one slot"
  | closed => "worker pool is shut down"

def isTimeout : PoolError → Bool
  | timeout _ => true
  | _ => false

/-- Whether a task was turned away without regard to what the transform makes of it. -/
def isRejection : PoolError → Bool
  | timeout _ => true
  | submission _ _ => true
  | closed => true
  | failed _ => false
  | noSlots => false

def isSubmission : PoolError → Bool
  | submission _ _ => true
  | _ => false

end PoolError

end Decipher
