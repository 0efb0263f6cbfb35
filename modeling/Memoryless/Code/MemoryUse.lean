import Memoryless.Code.Walk
import Memoryless.Collation
import Memoryless.Module

/-!
# Use of memory

A module uses memory if one of its functions has a memory instruction; the first one of the first such
function is reported. The bodies may be inspected one after the other or at the same time. In the second
way what is found is put in the order of the bodies before anything is decided, so both give the
same answer (`Module.scanParallel_eq_scan`).
-/

namespace Memoryless

/-- Where a module uses memory: the instruction, the function that has it, counted among those with a
body, and its offset in the code section. -/
structure MemoryUse where
  opcode : MemoryOpcode
  function : UInt32
  offset : Nat
  deriving DecidableEq, Repr

/-- Why it cannot be told whether a module uses memory. -/
inductive ScanError
  | unknownOpcode (opcode : Opcode) (function : UInt32) (offset : Nat)
  | malformedBody (function : UInt32) (offset : Nat) (reason : Reason)
  | malformedCode (offset : Nat) (reason : Reason)
  deriving DecidableEq, Repr

/-- The wording of an error. -/
def ScanError.message : ScanError → String
  | unknownOpcode opcode function offset =>
    s!"unknown opcode {opcode.display} in function {function} at code offset {Numeral.hex offset}"
  | malformedBody function offset reason =>
    s!"malformed body of function {function} at code offset {Numeral.hex offset}: {reason.message}"
  | malformedCode offset reason =>
    s!"malformed code section at offset {Numeral.hex offset}: {reason.message}"

/-- What is known of the code: that it uses no memory, where it first does, or why neither can be told. -/
abbrev Verdict := Except ScanError (Option MemoryUse)

namespace FunctionBody

/-- What keeps this body from being clean. -/
def finding? (body : FunctionBody) : Option (FunctionBody × Finding) :=
  (inspect body.contents).map fun found => (body, found)

/-- Where a fault is reported. Offsets count from the start of the section, except that the arity of a
typed selection is reported with its offset in the body. -/
def faultOffset (body : FunctionBody) (payload : Bytes) (fault : Fault) : Nat :=
  if fault.reason = .resultArity then Bytes.offset body.contents fault.rest
  else body.offset payload fault.rest

end FunctionBody

namespace Verdict

/-- The verdict on a code section, given the first thing found in it. -/
def ofFinding (payload : Bytes) : Option (FunctionBody × Finding) → Verdict
  | none => .ok none
  | some (body, .access opcode place) =>
    .ok (some ⟨opcode, body.index, body.offset payload place⟩)
  | some (body, .unreadable (.unknownOpcode op place)) =>
    .error (.unknownOpcode op body.index (body.offset payload place))
  | some (body, .unreadable (.malformed fault)) =>
    .error (.malformedBody body.index (body.faultOffset payload fault) fault.reason)

end Verdict

/-- What is found in bodies that are inspected at the same time, in the order of the bodies. -/
def findingsAtOnce (bodies : List FunctionBody) : List (Option (FunctionBody × Finding)) :=
  let tasks := bodies.mapIdx fun i body => Task.spawn fun _ => (i, body.finding?)
  collate bodies.length (tasks.map Task.get)

theorem findingsAtOnce_eq (bodies : List FunctionBody) :
    findingsAtOnce bodies = bodies.map FunctionBody.finding? := by
  have results : (bodies.mapIdx fun i body => Task.spawn fun _ => (i, body.finding?)).map Task.get =
      bodies.mapIdx fun i body => (i, body.finding?) := by
    simp [List.mapIdx_eq_zipIdx_map, Task.spawn]
  rw [findingsAtOnce, results, collate_mapIdx]

namespace Module

/-- The bodies in the first code section, with its payload. -/
def bodies (m : Module) : Except ScanError (Bytes × List FunctionBody) :=
  match m.section? .code with
  | none => .ok ([], [])
  | some code =>
    match FunctionBody.parse code.payload with
    | .ok bodies => .ok (code.payload, bodies)
    | .error fault =>
      .error (.malformedCode (Bytes.offset code.payload fault.rest) fault.reason)

/-- Inspects one body after the other, up to the first that is not clean. -/
def scan (m : Module) : Verdict := do
  let (payload, bodies) ← m.bodies
  Verdict.ofFinding payload (bodies.findSome? FunctionBody.finding?)

/-- Inspects all bodies at the same time. -/
def scanParallel (m : Module) : Verdict := do
  let (payload, bodies) ← m.bodies
  Verdict.ofFinding payload ((findingsAtOnce bodies).findSome? id)

/-- Both ways of inspection come to the same verdict. -/
theorem scanParallel_eq_scan (m : Module) : m.scanParallel = m.scan := by
  unfold scanParallel scan
  congr 1
  funext pair
  obtain ⟨payload, bodies⟩ := pair
  dsimp only
  rw [findingsAtOnce_eq, List.findSome?_map]
  rfl

end Module

end Memoryless
