import Decipher.CommandLine.Run

/-!
# The program

Reads the arguments, the environment and the files that the command touches, runs the
command on them, prints what it prints, and writes what it changed.
-/

namespace Decipher

namespace Program

/-- What the program says about itself. -/
def usage : String :=
  String.intercalate "\n"
    ["Usage: sigsmith <COMMAND>",
     "",
     "Commands:",
     "  solve <IDENTITY> [-c <CONFIG>] [--cache-dir <DIR>] [--json]",
     "  extract <FILE> [--json]",
     "  preprocess <FILE> [-o <OUTPUT>] [-c <CONFIG>]",
     "  check-config [-f <FILE>]",
     "  help [COMMAND]"]

def version : String := "sigsmith 0.1.0"

/-- What is wrong with arguments, in words. -/
def explanation : UsageError → String
  | .helpRequested | .nothingGiven => usage
  | .versionRequested => version
  | .unknownSubcommand => "error: unrecognized subcommand"
  | .unknownArgument => "error: unexpected argument found"
  | .missingArgument => "error: a required argument was not provided"
  | .invalidValue => "error: a value is required but none was supplied"
  | .repeated => "error: an argument cannot be used multiple times"
  | .excessValue => "error: a flag takes no value"

/-- Answers arguments that name no command. -/
def explain (e : UsageError) : IO UInt32 := do
  if e.isRequest then IO.println (explanation e) else IO.eprintln (explanation e)
  return e.exitCode.toUInt32

/-- Adds what stands at a path, and above it, to what is known of the files. -/
def look (t : FileTree) (path : String) : IO FileTree := do
  let here ← IO.currentDir
  let names := Path.steps path
  let start : FilePlace := if Path.isAbsolute path then .root else []
  let mut t := t
  let mut place := start
  let mut file := if Path.isAbsolute path then here / "/" else here
  for name in names do
    file := file / name
    place := place.step name
    if ← file.isDir then t := t.put place .directory
    else if ← file.pathExists then t := t.put place (.file (← IO.FS.readBinFile file))
  return t

/-- The environment, as far as it matters. -/
def environment : IO Environment := do
  let names := [Config.concurrencyVariable, Config.timeoutVariable]
  let values ← names.mapM fun name => IO.getEnv name
  return (names.zip values).filterMap fun (name, value) => value.map fun value => (name, value)

/-- Writes what a command changed. -/
def save (before after : FileTree) : IO Unit := do
  for (place, node) in after.entries.reverse do
    let path := FileTree.placeText place node
    match node, before.node? place with
    | .directory, none => IO.FS.createDirAll path
    | .file content, some (.file old) =>
      if content != old then IO.FS.writeBinFile path content
    | .file content, _ => IO.FS.writeBinFile path content
    | _, _ => pure ()

/-- Runs a command. -/
def perform (command : Command) : IO UInt32 := do
  let env ← environment
  let named ← command.namedFiles.foldlM look FileTree.empty
  let before ← (command.cacheFiles env named).foldlM look named
  let outcome := command.run env before
  save before outcome.files
  IO.print outcome.output
  IO.eprint outcome.remarks
  match outcome.failure with
  | none => return 0
  | some message =>
    IO.eprintln ("error: " ++ message)
    return 1

end Program

end Decipher

def main (args : List String) : IO UInt32 :=
  match Decipher.Command.ofArguments args with
  | .error e => Decipher.Program.explain e
  | .ok command => Decipher.Program.perform command
