/-!
# Configuration

The settings of a service, with the value that each has if nothing else is said.  A
setting may be out of bounds: `Config.problems` lists what is wrong.
-/

namespace Decipher

structure Config where
  /-- The number of slots that preprocess at the same time. -/
  concurrency : Nat := 1
  /-- How long a task may take, in milliseconds. -/
  taskTimeout : Nat := 60000
  /-- The longest script that is preprocessed, in bytes. -/
  maxPayload : Nat := 10000000
  /-- The directory of scripts and of what was found in them. -/
  cacheDir : String := "cache"
  deriving DecidableEq

namespace Config

/-- What is wrong with a configuration; nothing, if it is valid. -/
def problems (c : Config) : List String :=
  (if c.concurrency = 0 then ["concurrency must be at least 1"] else []) ++
    (if c.taskTimeout = 0 then ["task_timeout_ms must be greater than 0"] else []) ++
    (if c.maxPayload = 0 then ["max_payload_bytes must be greater than 0"] else []) ++
    (if c.cacheDir.isEmpty then ["cache_dir must not be empty"] else [])

end Config

end Decipher
