import Memoryless.Command.Run

/-!
# The program

Hands the arguments, the environment and the files of the machine to `Command.run`, and prints what it
answers.
-/

namespace Memoryless.Command

/-- The error behind a failed operation on a file. -/
def fileErrorOf : IO.Error → FileError
  | .noFileOrDirectory .. => .notFound
  | .inappropriateType _ 21 _ => .isDirectory
  | .inappropriateType .. => .notDirectory
  | e@(.invalidArgument _ code _) =>
    if code = 36 || code = 0 - 36 then .nameTooLong else .other (toString e)
  | e => .other (toString e)

/-- The files of the machine. -/
def machineDisk : Disk IO where
  read path := do
    try
      return .ok (← IO.FS.readBinFile path).data.toList
    catch e => return .error (fileErrorOf e)
  write path bytes := do
    try
      IO.FS.writeBinFile path ⟨bytes.toArray⟩
      return .ok ()
    catch e => return .error (fileErrorOf e)

end Memoryless.Command

open Memoryless.Command in
def main (args : List String) : IO UInt32 := do
  let env : Environment := {
    parallel := ← IO.getEnv Environment.parallelName
    log := ← IO.getEnv Environment.logName
    commonLog := ← IO.getEnv Environment.commonLogName }
  let outcome ← run machineDisk env args
  for line in outcome.output do
    IO.println line
  for line in outcome.errorLines do
    IO.eprintln line
  return outcome.status.code
