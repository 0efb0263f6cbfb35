import Memoryless.Command.Files
import Memoryless.Command.LogFilter
import Memoryless.Stripping

/-!
# A run of the program

Reads the input, strips it and writes the output. What is done and what is said about it are kept apart:
the log can change with the settings, the rest cannot. Nothing is written unless stripping worked.
-/

namespace Memoryless.Command

/-- How a run ended. -/
inductive ExitStatus
  | success | failure | usage
  deriving DecidableEq, Repr

/-- The exit code of the program. -/
def ExitStatus.code : ExitStatus → UInt32
  | success => 0
  | failure => 1
  | usage => 2

theorem ExitStatus.code_eq_zero_iff {status : ExitStatus} : status.code = 0 ↔ status = .success := by
  cases status <;> decide

/-- What a run leaves behind besides files: lines on standard output, and on standard error the log
and then the message of an error. -/
structure Outcome where
  status : ExitStatus
  output : List String := []
  log : List LogEvent := []
  errors : List String := []
  deriving DecidableEq, Repr

/-- The lines on standard error. -/
def Outcome.errorLines (o : Outcome) : List String :=
  o.log.map LogEvent.line ++ o.errors

/-! ## What is said -/

def readEvent (path : String) (size : Nat) : LogEvent :=
  { level := .info, message := "read module", fields := [("path", path), ("bytes", toString size)] }

/-- What is said of a stripped module: that it is one, and which exports were removed. -/
def strippedEvents (s : Stripped) : List LogEvent :=
  { level := .debug, message := "no memory instructions found, memory section removed" } ::
    s.removedExports.map fun e =>
      { level := .debug, message := "removed memory export",
        fields := [("name", e.name), ("index", toString e.index)] }

def wroteEvent (path : String) (s : Stripped) : LogEvent :=
  { level := .info, message := "wrote module",
    fields := [("path", path), ("bytes", toString s.bytes.length), ("saved", toString s.saved)] }

/-! ## What is done -/

section Perform

variable {m : Type → Type} [Monad m]

/-- Carries out an invocation. Gives everything there is to say, and the message of an error. -/
def Invocation.perform (disk : Disk m) (i : Invocation) : m (List LogEvent × Option String) := do
  match ← disk.read i.input with
  | .error e => return ([], some s!"failed to read {i.input}: {e.message}")
  | .ok file =>
    let wasRead := readEvent i.input file.length
    match strip i.parallel file with
    | .error e => return ([wasRead], some s!"cannot remove memory from {i.input}: {e.message}")
    | .ok s =>
      let soFar := wasRead :: strippedEvents s
      match ← disk.write i.output s.bytes with
      | .error e => return (soFar, some s!"failed to write {i.output}: {e.message}")
      | .ok () => return (soFar ++ [wroteEvent i.output s], none)

/-- The outcome of what was performed. -/
def outcomeOf (filter : LogFilter) (events : List LogEvent) : Option String → Outcome
  | none => { status := .success, log := filter.shown events }
  | some message =>
    { status := .failure, log := filter.shown events, errors := ["Error: " ++ message] }

/-- Runs the program. -/
def run (disk : Disk m) (env : Environment) (args : List String) : m Outcome := do
  match parse env args with
  | .error e => return { status := .usage, errors := e.lines }
  | .ok .help => return { status := .success, output := helpLines env }
  | .ok .version => return { status := .success, output := versionLines }
  | .ok (.run i) =>
    let (events, message) ← i.perform disk
    return outcomeOf (LogFilter.ofEnvironment env i.verbose) events message

end Perform

/-- Runs the program on a file map. -/
def runOnMap (files : FileMap) (env : Environment) (args : List String) : Outcome × FileMap :=
  run FileMap.disk env args files

end Memoryless.Command
