/-!
# Arguments

What a subcommand is given: options and one argument at most, in any order.  An option is
written with two dashes and its name or with one dash and its letter, and its value follows
as the next argument or, behind an equals sign or right behind the letter, in the same one.
Letters can share a dash.  Behind a bare `--` there are no options.

A value is looked at only when it is settled that nothing else will be said about it, which
is when the next option or the argument is read, or at the end.  So of two mistakes the first
to be noticed need not be the first that was made.
-/

namespace Decipher

/-- Why arguments name no command.  That help is asked for is one of the reasons. -/
inductive UsageError
  | helpRequested
  | versionRequested
  /-- There is no subcommand, nor anything else. -/
  | nothingGiven
  | unknownSubcommand
  | unknownArgument
  | missingArgument
  /-- A value is missing, or it is empty and must not be. -/
  | invalidValue
  /-- An option is given twice. -/
  | repeated
  /-- A flag is given a value. -/
  | excessValue
  deriving DecidableEq

/-- Whether the answer to arguments is what they asked for. -/
def UsageError.isRequest : UsageError → Bool
  | helpRequested | versionRequested => true
  | _ => false

/-- The exit code that answers arguments. -/
def UsageError.exitCode (e : UsageError) : Nat := if e.isRequest then 0 else 2

namespace Arguments

/-- What a value must be. -/
inductive ValueKind
  | text
  /-- A text that is not empty. -/
  | path
  deriving DecidableEq

/-- An option.  One without a kind of value is a flag. -/
structure Opt where
  name : String
  letter : Option Char := none
  value : Option ValueKind := none

/-- What a subcommand can be given. -/
structure Grammar where
  options : List Opt
  argument : Option ValueKind := none

/-- What a subcommand was given. -/
structure Given where
  argument : Option String := none
  /-- The values of options, under the names of the options. -/
  values : List (String × String) := []
  flags : List String := []

/-- What was read last and is not settled. -/
inductive Pending
  | nothing
  | awaitsValue (option : String) (kind : ValueKind)
  | hasValue (option : String) (kind : ValueKind) (value : String)
  | argument (kind : ValueKind) (value : String)

/-- How far arguments were read. -/
structure Progress where
  given : Given := {}
  pending : Pending := .nothing
  /-- Whether the argument was read. -/
  full : Bool := false

/-- A value, if it can be one. -/
def checkValue (kind : ValueKind) (value : String) : Except UsageError String :=
  if kind = .path && value.isEmpty then .error .invalidValue else .ok value

/-- Takes an option with its value. -/
def Given.addValue (g : Given) (option : String) (kind : ValueKind) (value : String) :
    Except UsageError Given :=
  if (g.values.lookup option).isSome then .error .repeated
  else (checkValue kind value).map fun value => { g with values := g.values ++ [(option, value)] }

/-- Takes a flag. -/
def Given.addFlag (g : Given) (flag : String) : Except UsageError Given :=
  if g.flags.contains flag then .error .repeated else .ok { g with flags := g.flags ++ [flag] }

/-- Settles what is pending. -/
def Progress.settle (p : Progress) : Except UsageError Progress :=
  match p.pending with
  | .nothing => .ok p
  | .awaitsValue _ _ => .error .invalidValue
  | .hasValue option kind value =>
    (p.given.addValue option kind value).map fun given => { p with given, pending := .nothing }
  | .argument kind value =>
    (checkValue kind value).map fun value =>
      { p with given := { p.given with argument := some value }, pending := .nothing }

/-! ## Single arguments -/

/-- What follows an option in the same argument. -/
def readOption (p : Progress) (o : Opt) (kind : ValueKind) (attached : Option String) :
    Except UsageError Progress := do
  let p ← p.settle
  match attached with
  | some value => return { p with given := ← p.given.addValue o.name kind value }
  | none => return { p with pending := .awaitsValue o.name kind }

/-- A flag. -/
def readFlag (p : Progress) (o : Opt) : Except UsageError Progress := do
  let p ← p.settle
  return { p with given := ← p.given.addFlag o.name }

/-- Asks for help, unless something is wrong before. -/
def readHelp (p : Progress) : Except UsageError Progress := do
  let _ ← p.settle
  throw .helpRequested

/-- The name and the value of an option that is written with two dashes. -/
def splitEquals (cs : List Char) : String × Option String :=
  let name := String.ofList (cs.takeWhile (· ≠ '='))
  match cs.dropWhile (· ≠ '=') with
  | [] => (name, none)
  | _ :: value => (name, some (String.ofList value))

/-- An option behind two dashes. -/
def readNamed (g : Grammar) (p : Progress) (cs : List Char) : Except UsageError Progress :=
  let (name, attached) := splitEquals cs
  if name = "help" then
    if attached.isSome then .error .excessValue else readHelp p
  else
    match g.options.find? fun o => o.name == name with
    | none => .error .unknownArgument
    | some o =>
      match o.value with
      | some kind => readOption p o kind attached
      | none => if attached.isSome then .error .excessValue else readFlag p o

/-- Options behind one dash. -/
def readLetters (g : Grammar) (p : Progress) : List Char → Except UsageError Progress
  | [] => .ok p
  | c :: rest =>
    if c = 'h' then readHelp p
    else
      match g.options.find? fun o => o.letter == some c with
      | none => .error .unknownArgument
      | some o =>
        match o.value with
        | some kind =>
          match rest with
          | [] => readOption p o kind none
          | '=' :: value => readOption p o kind (some (String.ofList value))
          | value => readOption p o kind (some (String.ofList value))
        | none =>
          match readFlag p o with
          | .error e => .error e
          | .ok p => readLetters g p rest

/-- An argument that is no option. -/
def readArgument (g : Grammar) (p : Progress) (arg : String) : Except UsageError Progress :=
  match g.argument with
  | none => .error .unknownArgument
  | some kind =>
    if p.full then .error .unknownArgument
    else p.settle.map fun p => { p with pending := .argument kind arg, full := true }

/-! ## All arguments -/

/-- Reads arguments one after another.  `bare` tells whether options are over. -/
def readAll (g : Grammar) : Bool → Progress → List String → Except UsageError Progress
  | _, p, [] => p.settle
  | true, p, arg :: rest => do readAll g true (← readArgument g p arg) rest
  | false, p, arg :: rest =>
    match arg.toList with
    | ['-', '-'] => readAll g true p rest
    | '-' :: '-' :: cs => do readAll g false (← readNamed g p cs) rest
    | '-' :: c :: cs => do readAll g false (← readLetters g p (c :: cs)) rest
    | _ =>
      match p.pending with
      | .awaitsValue option kind =>
        readAll g false { p with pending := .hasValue option kind arg } rest
      | _ => do readAll g false (← readArgument g p arg) rest

/-- What a subcommand is given.  If it has an argument, the argument must be there. -/
def parse (g : Grammar) (args : List String) : Except UsageError Given := do
  let p ← readAll g false {} args
  if g.argument.isSome && p.given.argument.isNone then throw .missingArgument
  return p.given

/-- The value of an option. -/
def Given.value? (g : Given) (option : String) : Option String := g.values.lookup option

end Arguments

end Decipher
