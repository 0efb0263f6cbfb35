import Memoryless.Code.MemoryUse
import Memoryless.Module.Binary
import Memoryless.Removal

/-!
# Stripping a file

From a binary module to one without its memory: read it, make sure that no function uses memory, remove
the memory, write what is left. Nothing comes out unless every step succeeds.
-/

namespace Memoryless

/-- Why a file cannot be stripped, by the step that refused it. -/
inductive StripError
  | decode (error : DecodeError)
  | scan (error : ScanError)
  | memoryUsed (use : MemoryUse)
  | removal (error : RemovalError)
  deriving DecidableEq, Repr

/-- The wording of an error. -/
def StripError.message : StripError → String
  | decode error => error.message
  | scan error => error.message
  | memoryUsed use =>
    s!"memory instruction `{use.opcode.display}` found in function {use.function} " ++
      s!"at code offset {Numeral.hex use.offset}; memory is in use"
  | removal error => error.message

/-- A stripped file. -/
structure Stripped where
  bytes : Bytes
  removedExports : List Export
  inputSize : Nat
  deriving DecidableEq, Repr

/-- How many bytes the stripped file is shorter. -/
def Stripped.saved (s : Stripped) : Nat :=
  s.inputSize - s.bytes.length

/-- A module whose functions use no memory. -/
def Module.requireClean (m : Module) (parallel : Bool) : Except StripError Unit :=
  match if parallel then m.scanParallel else m.scan with
  | .error error => .error (.scan error)
  | .ok (some use) => .error (.memoryUsed use)
  | .ok none => .ok ()

/-- Strips the memory off a binary module. -/
def strip (parallel : Bool) (file : Bytes) : Except StripError Stripped := do
  let m ← (Module.decode file).mapError .decode
  m.requireClean parallel
  let removal ← m.removeMemory.mapError .removal
  return {
    bytes := removal.remaining.encode
    removedExports := removal.removedExports
    inputSize := file.length }

end Memoryless
