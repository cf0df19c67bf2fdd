import Decipher.CommandLine.Arguments

/-!
# Commands

What can be asked for on the command line.
-/

namespace Decipher

inductive Command
  /-- Finds the solver of a script that is known by an identity. -/
  | solve (identity : String) (config cacheDir : Option String) (asTree : Bool)
  /-- Finds the solver in a file that holds a preprocessed script. -/
  | extract (file : String) (asTree : Bool)
  /-- Preprocesses the script in a file. -/
  | preprocess (file : String) (output config : Option String)
  /-- Looks for mistakes in a configuration. -/
  | checkConfig (file : String)

namespace Command

open Arguments

/-- The flag that asks for a solver as a syntax tree. -/
def treeFlag : Opt := { name := "json" }

def configOption : Opt := { name := "config", letter := some 'c', value := some .path }

def cacheDirOption : Opt := { name := "cache-dir", value := some .path }

def outputOption : Opt := { name := "output", letter := some 'o', value := some .path }

def fileOption : Opt := { name := "file", letter := some 'f', value := some .path }

/-- The configuration that is checked if no other is named. -/
def defaultConfigFile : String := "sigsmith.yaml"

/-- A subcommand, with what it can be given and the command that it then is. -/
structure Subcommand where
  name : String
  grammar : Grammar
  command : Given → Command

def subcommands : List Subcommand :=
  [{ name := "solve"
     grammar := ⟨[configOption, cacheDirOption, treeFlag], some .text⟩
     command := fun g =>
      .solve (g.argument.getD "") (g.value? configOption.name) (g.value? cacheDirOption.name)
        (g.flags.contains treeFlag.name) },
   { name := "extract"
     grammar := ⟨[treeFlag], some .path⟩
     command := fun g => .extract (g.argument.getD "") (g.flags.contains treeFlag.name) },
   { name := "preprocess"
     grammar := ⟨[outputOption, configOption], some .path⟩
     command := fun g =>
      .preprocess (g.argument.getD "") (g.value? outputOption.name)
        (g.value? configOption.name) },
   { name := "check-config"
     grammar := ⟨[fileOption], none⟩
     command := fun g => .checkConfig ((g.value? fileOption.name).getD defaultConfigFile) }]

def find? (name : String) : Option Subcommand := subcommands.find? fun s => s.name == name

/-- The subcommand that explains the others. -/
def helpName : String := "help"

/-- Asks for help on a subcommand, or on all. -/
def helpOn : List String → UsageError
  | [] => .helpRequested
  | [name] =>
    if name = helpName || (find? name).isSome then .helpRequested else .unknownSubcommand
  | _ => .unknownSubcommand

/-- An option where a subcommand should be, behind two dashes. -/
def topOption (cs : List Char) : UsageError :=
  let (name, attached) := splitEquals cs
  if name = "help" then if attached.isSome then .excessValue else .helpRequested
  else if name = "version" then if attached.isSome then .excessValue else .versionRequested
  else .unknownArgument

/-- An option where a subcommand should be, behind one dash. -/
def topLetter (c : Char) : UsageError :=
  if c = 'h' then .helpRequested else if c = 'V' then .versionRequested else .unknownArgument

/-- What stands where a subcommand should be, if options are over. -/
def bareWord (arg : String) : UsageError :=
  if arg = helpName || (find? arg).isSome then .unknownArgument else .unknownSubcommand

/-- The command that arguments name. -/
def ofArguments : List String → Except UsageError Command
  | [] => .error .nothingGiven
  | arg :: rest =>
    if arg = helpName then .error (helpOn rest)
    else
      match find? arg with
      | some s => (parse s.grammar rest).map s.command
      | none =>
        match arg.toList with
        | ['-', '-'] => .error ((rest.head?.map bareWord).getD .nothingGiven)
        | '-' :: '-' :: cs => .error (topOption cs)
        | '-' :: c :: _ => .error (topLetter c)
        | _ => .error .unknownSubcommand

end Command

end Decipher
