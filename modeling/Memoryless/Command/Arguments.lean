import Memoryless.Text.Pieces
import Memoryless.Text.Visible

/-!
# The command line

The program takes the path to read and the path to write, and flags that may stand anywhere among them;
after `--` every argument is a path. Arguments are taken in order, and the first that is wrong decides.
A path that is empty is noticed only when the next flag or path that is known comes, so a wrong
argument right after it is reported instead. An environment variable may turn on what `--parallel`
turns on; it is looked at when all arguments are read and the flag was not among them.
-/

namespace Memoryless.Command

/-- The flags. -/
inductive Flag
  | parallel | verbose | help | version
  deriving DecidableEq, Repr

namespace Flag

/-- Every flag. -/
def all : List Flag :=
  [parallel, verbose, help, version]

/-- The long form of a flag, without the two dashes. -/
def name : Flag → String
  | parallel => "parallel"
  | verbose => "verbose"
  | help => "help"
  | version => "version"

/-- The short form of a flag, if it has one, without the dash. -/
def letter? : Flag → Option Char
  | parallel => none
  | verbose => some 'v'
  | help => some 'h'
  | version => some 'V'

/-- The flag with a long form. -/
def ofName? (text : String) : Option Flag :=
  all.find? fun flag => flag.name == text

/-- The flag with a short form. -/
def ofLetter? (c : Char) : Option Flag :=
  all.find? fun flag => flag.letter? == some c

end Flag

/-- The two paths. -/
inductive PathRole
  | input | output
  deriving DecidableEq, Repr

/-- The name of a path in messages. -/
def PathRole.name : PathRole → String
  | input => "<INPUT>"
  | output => "<OUTPUT>"

/-- The environment variables that matter, each if it is set. -/
structure Environment where
  parallel : Option String := none
  log : Option String := none
  commonLog : Option String := none
  deriving DecidableEq, Repr

namespace Environment

def parallelName : String := "MEMSTRIP_PARALLEL"

def logName : String := "MEMSTRIP_LOG"

def commonLogName : String := "RUST_LOG"

/-- The variables that matter, out of all of them. -/
def ofLookup (lookup : String → Option String) : Environment where
  parallel := lookup parallelName
  log := lookup logName
  commonLog := lookup commonLogName

end Environment

/-- What is wrong with the command line. -/
inductive UsageError
  | unexpectedArgument (text : String)
  | unexpectedValue (value : String) (flag : Flag)
  | repeated (flag : Flag)
  | emptyPath (role : PathRole)
  | emptySetting
  | invalidSetting (value : String)
  | missing (roles : List PathRole)
  deriving DecidableEq, Repr

namespace UsageError

/-- What a setting may be. -/
def possibleSettings : String :=
  "  [possible values: true, false]"

/-- A text as messages quote it. -/
def quoted (text : String) : String :=
  String.ofList (Text.visible text.toList)

/-- The lines of a message. -/
def lines : UsageError → List String
  | unexpectedArgument text => [s!"error: unexpected argument '{quoted text}' found"]
  | unexpectedValue value flag =>
    [s!"error: unexpected value '{quoted value}' for '--{flag.name}' found; no more were expected"]
  | repeated flag => [s!"error: the argument '--{flag.name}' cannot be used multiple times"]
  | emptyPath role => [s!"error: a value is required for '{role.name}' but none was supplied"]
  | emptySetting =>
    ["error: a value is required for '--parallel' but none was supplied", possibleSettings]
  | invalidSetting value => [s!"error: invalid value '{quoted value}' for '--parallel'", possibleSettings]
  | missing roles =>
    "error: the following required arguments were not provided:" ::
      roles.map fun role => "  " ++ role.name

end UsageError

/-- A run that was asked for. -/
structure Invocation where
  input : String
  output : String
  parallel : Bool
  verbose : Bool
  deriving DecidableEq, Repr

/-- What a command line asks for. -/
inductive Request
  | help
  | version
  | run (invocation : Invocation)
  deriving DecidableEq, Repr

/-- The arguments taken so far. -/
structure Parsing where
  paths : List String := []
  parallel : Bool := false
  verbose : Bool := false
  deriving DecidableEq, Repr

/-- Whether to go on with the arguments, or a request that needs no more of them. -/
inductive Progress
  | more (p : Parsing)
  | done (request : Request)
  deriving DecidableEq, Repr

namespace Parsing

/-- No path may be empty. -/
def checkPaths (p : Parsing) : Except UsageError Unit :=
  match p.paths with
  | [] => .ok ()
  | [input] => if input.isEmpty then .error (.emptyPath .input) else .ok ()
  | input :: output :: _ =>
    if input.isEmpty then .error (.emptyPath .input)
    else if output.isEmpty then .error (.emptyPath .output)
    else .ok ()

/-- Takes a path. There are two. -/
def path (p : Parsing) (text : String) : Except UsageError Parsing := do
  if 2 ≤ p.paths.length then throw (.unexpectedArgument text)
  p.checkPaths
  return { p with paths := p.paths ++ [text] }

/-- Takes a flag. Asking for help or for the version ends the matter. -/
def flag (p : Parsing) (flag : Flag) : Except UsageError Progress := do
  p.checkPaths
  match flag with
  | .help => return .done .help
  | .version => return .done .version
  | .parallel =>
    if p.parallel then throw (.repeated .parallel)
    return .more { p with parallel := true }
  | .verbose =>
    if p.verbose then throw (.repeated .verbose)
    return .more { p with verbose := true }

/-- Takes flags in their short form, written together. -/
def letters (p : Parsing) : List Char → Except UsageError Progress
  | [] => .ok (.more p)
  | c :: cs =>
    match Flag.ofLetter? c with
    | none => .error (.unexpectedArgument (String.ofList ['-', c]))
    | some flag =>
      match p.flag flag with
      | .ok (.more p) => letters p cs
      | outcome => outcome

/-- Takes a flag in its long form, to which no value may be attached. -/
def long (p : Parsing) (text : List Char) : Except UsageError Progress :=
  let name := String.ofList (text.takeWhile (· ≠ '='))
  match Flag.ofName? name, text.dropWhile (· ≠ '=') with
  | none, _ => .error (.unexpectedArgument ("--" ++ name))
  | some flag, [] => p.flag flag
  | some flag, _ :: value => .error (.unexpectedValue (String.ofList value) flag)

/-- Takes an argument. A dash alone is a path. -/
def argument (p : Parsing) (text : String) : Except UsageError Progress :=
  match text.toList with
  | '-' :: '-' :: rest => p.long rest
  | '-' :: c :: cs => p.letters (c :: cs)
  | _ => (p.path text).map .more

/-- Takes arguments in order. -/
def arguments (p : Parsing) : List String → Except UsageError Progress
  | [] => .ok (.more p)
  | text :: rest =>
    if text = "--" then (rest.foldlM path p).map .more
    else
      match p.argument text with
      | .ok (.more p) => arguments p rest
      | outcome => outcome

/-- Whether to look into bodies at the same time: the flag, or else the environment, says so. -/
def isParallel (p : Parsing) (env : Environment) : Except UsageError Bool :=
  if p.parallel then .ok true
  else
    match env.parallel with
    | none => .ok false
    | some value =>
      if value = "true" then .ok true
      else if value = "false" then .ok false
      else if value.isEmpty then .error .emptySetting
      else .error (.invalidSetting value)

/-- What all arguments together ask for. -/
def finish (p : Parsing) (env : Environment) : Except UsageError Request := do
  p.checkPaths
  let parallel ← p.isParallel env
  match p.paths with
  | input :: output :: _ => return .run { input, output, parallel, verbose := p.verbose }
  | [_] => throw (.missing [.output])
  | [] => throw (.missing [.input, .output])

end Parsing

/-- What a command line asks for. -/
def parse (env : Environment) (args : List String) : Except UsageError Request := do
  match ← Parsing.arguments {} args with
  | .done request => return request
  | .more p => p.finish env

/-- The name and version of the program. -/
def versionLines : List String :=
  ["memstrip 0.1.0"]

/-- The blanks in front of what is said about a flag, on every line but the first. -/
def flagIndent : List Char :=
  List.replicate 18 ' '

/-- What is said about the value of the environment variable, up to the next flag. A sequence that the
value leaves open takes what follows with it. -/
def parallelHelp (env : Environment) : String :=
  let value := (env.parallel.getD "").toList.flatMap fun c => if c = '\n' then c :: flagIndent else [c]
  String.ofList (Text.visible (value ++ "]\n  ".toList))

/-- How to use the program. The value that an environment variable has is shown beside the flag. -/
def helpText (env : Environment) : String :=
  "Removes an unused linear memory, and the exports pointing at it, from a WebAssembly module\n\n" ++
  "Usage: memstrip [OPTIONS] <INPUT> <OUTPUT>\n\n" ++
  "Arguments:\n" ++
  "  <INPUT>   Module to read\n" ++
  "  <OUTPUT>  Where to write the stripped module\n\n" ++
  "Options:\n" ++
  "      --parallel  Scan function bodies in parallel [env: MEMSTRIP_PARALLEL=" ++ parallelHelp env ++
  "-v, --verbose   Log at debug level\n" ++
  "  -h, --help      Print help\n" ++
  "  -V, --version   Print version"

/-- How to use the program, line by line. -/
def helpLines (env : Environment) : List String :=
  (Text.pieces '\n' (helpText env).toList).map String.ofList

end Memoryless.Command
