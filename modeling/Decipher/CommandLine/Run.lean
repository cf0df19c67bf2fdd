import Decipher.CommandLine.Command
import Decipher.Config.Environment
import Decipher.Config.Reader
import Decipher.Pipeline.Disk
import Decipher.Pipeline.Preprocessor

/-!
# Running commands

A command is run in a working directory and an environment.  It prints, it may change files,
and it may fail with a message.
-/

namespace Decipher

/-- What a command leaves behind. -/
structure CommandOutcome where
  /-- Why the command failed, if it did. -/
  failure : Option String := none
  output : String := ""
  /-- What was printed beside the output. -/
  remarks : String := ""
  files : FileTree

/-- A failure, with what is to be remarked about it. -/
structure CommandFailure where
  message : String
  problems : List String := []

namespace Command

/-! ## What commands need -/

/-- The text of a file that was named on the command line. -/
def readNamedFile (t : FileTree) (path : String) : Except String String :=
  (t.readText path).mapError fun e => "failed to read " ++ path ++ ": " ++ e.message

/-- The configuration in a file. -/
def readConfig (t : FileTree) (path : String) : Except String Config := do
  let text ← readNamedFile t path
  (Config.ofYaml text).mapError fun e => "YAML parse error: " ++ e.message

/-- The configuration for a command that does work: that of a file or the default, with what
the environment overrides.  It must be valid. -/
def settings (env : Environment) (t : FileTree) (path : Option String) :
    Except CommandFailure Config := do
  let c ← match path with
    | some path => (readConfig t path).mapError fun message => ⟨message, []⟩
    | none => .ok {}
  let c := c.withEnvironment env
  if c.problems.isEmpty then return c
  throw ⟨"validation failed", c.problems⟩

/-- The size of the built-in templates, if they are well formed. -/
def checkTemplates : Except String Nat :=
  (Shape.totalSize Shape.all).mapError fun (name, defect) =>
    "template '" ++ name ++ "': " ++ defect.message

/-- What a pool that is set up as configured answers to a source. -/
def execute (c : Config) : String → Answer :=
  (Preprocessor.prunes c.maxPayload).answer c.taskTimeout

/-- A set of solvers as it is printed: as source text if that is possible and no tree is
asked for. -/
def solverText (asTree : Bool) (s : SolverSet) : String :=
  let tree := s.signature.toTree.indentedText
  if asTree then tree else s.signature.sourceText?.getD tree

/-- A line for each problem. -/
def remarksOf (problems : List String) : String :=
  String.join (problems.map fun problem => "  ERROR: " ++ problem ++ "\n")

/-- Ends a command that changed no files. -/
def finish (t : FileTree) : Except CommandFailure String → CommandOutcome
  | .ok text => { output := text ++ "\n", files := t }
  | .error e => { failure := some e.message, remarks := remarksOf e.problems, files := t }

/-- A failure with nothing to remark. -/
def plain {α : Type} (x : Except String α) : Except CommandFailure α :=
  x.mapError fun message => ⟨message, []⟩

/-! ## Commands -/

/-- The solver of a script in a cache directory.  What is found is kept there. -/
def solveIn (c : Config) (identity : String) (asTree : Bool) (t : FileTree) : CommandOutcome :=
  let services := DiskStore.services c.cacheDir (execute c)
  let (solution, store) := services.solve { files := t } identity
  match solution with
  | .error e => finish store.files (.error ⟨e.message, []⟩)
  | .ok none => finish store.files (.error ⟨"no solvers found for " ++ identity, []⟩)
  | .ok (some solvers) => finish store.files (.ok (solverText asTree solvers))

/-- The solver in a file. -/
def extractFrom (file : String) (asTree : Bool) (t : FileTree) : Except String String := do
  let _ ← checkTemplates
  let text ← readNamedFile t file
  match SolverSet.ofProgramText text with
  | .error e => throw e.message
  | .ok none => throw ("no decipher function found in " ++ file)
  | .ok (some solvers) => return solverText asTree solvers

/-- The preprocessed form of the script in a file. -/
def preprocessedForm (c : Config) (file : String) (t : FileTree) : Except String String := do
  let source ← readNamedFile t file
  (execute c source).mapError PoolError.message

/-- Prints a text, or writes it to a file. -/
def deliver (output : Option String) (text : String) (t : FileTree) : CommandOutcome :=
  match output with
  | none => finish t (.ok text)
  | some path =>
    match t.write path (Utf8.encode text) with
    | .ok t => { files := t }
    | .error e =>
      finish t (.error ⟨"cannot write " ++ path ++ ": " ++ e.message, []⟩)

/-- What is to be said about the configuration in a file. -/
def configReport (file : String) (t : FileTree) : Except CommandFailure String := do
  let c ← plain (readConfig t file)
  match c.problems, checkTemplates with
  | [], .ok size =>
    return "OK: " ++ toString c.concurrency ++ " slot(s), " ++ toString c.taskTimeout ++
      "ms timeout, " ++ toString size ++ " template nodes"
  | problems, templates =>
    let problems := problems ++ (match templates with
      | .ok _ => []
      | .error message => [message])
    throw ⟨toString problems.length ++ " validation error(s)", problems⟩

/-- Settles what a command that does work needs, and goes on with it. -/
def withSettings (env : Environment) (t : FileTree) (config : Option String)
    (work : Config → CommandOutcome) : CommandOutcome :=
  match settings env t config with
  | .error e => finish t (.error e)
  | .ok c =>
    match checkTemplates with
    | .error message => finish t (.error ⟨message, []⟩)
    | .ok _ => work c

/-- Runs a command. -/
def run (env : Environment) (t : FileTree) : Command → CommandOutcome
  | solve identity config cacheDir asTree =>
    withSettings env t config fun c =>
      solveIn { c with cacheDir := cacheDir.getD c.cacheDir } identity asTree t
  | extract file asTree => finish t (plain (extractFrom file asTree t))
  | preprocess file output config =>
    withSettings env t config fun c =>
      match preprocessedForm c file t with
      | .error message => finish t (.error ⟨message, []⟩)
      | .ok text => deliver output text t
  | checkConfig file => finish t (configReport file t)

/-! ## What commands touch -/

/-- The files that a command names. -/
def namedFiles : Command → List String
  | solve _ config _ _ => config.toList
  | extract file _ => [file]
  | preprocess file output config => file :: (output.toList ++ config.toList)
  | checkConfig file => [file]

/-- The file of an entry and the one that it is written to first. -/
def entryFiles {α : Type} (c : FileCache α) (digest : String) : List String :=
  let path := c.entryPath digest
  [path, FileCache.temporaryPath path]

/-- The files of a cache that a command touches, given the files that it names. -/
def cacheFiles (env : Environment) (t : FileTree) : Command → List String
  | solve identity config cacheDir _ =>
    match settings env t config with
    | .error _ => []
    | .ok c =>
      let dir := cacheDir.getD c.cacheDir
      let digest := identityDigest identity
      Path.join dir (CacheKey.sourceName digest) ::
        (entryFiles (DiskStore.preprocessedCache dir) digest ++
          entryFiles (DiskStore.solverCache dir) digest)
  | _ => []

end Command

end Decipher
