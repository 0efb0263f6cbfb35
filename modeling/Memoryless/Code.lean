import Memoryless.Instruction

/-!
# Code sections

The payload of a code section counts the function bodies and gives each with its size. All bodies are
cut out before any of them is looked into. A body begins with the declarations of its local
variables; instructions follow.
-/

namespace Memoryless

/-- A function body in a code section. -/
structure FunctionBody where
  /-- Its place among the bodies of the section. -/
  index : UInt32
  /-- Its bytes, without the size in front of them. -/
  contents : Bytes
  /-- What follows it in the section. -/
  rest : Bytes
  deriving DecidableEq, Repr

namespace FunctionBody

/-- The bytes of a body. A size that says more than there is, is blamed on the end of the section. -/
def readContents (size : Nat) : Reader Bytes := fun s =>
  match Reader.bytes size s with
  | .error _ => .error ⟨.bodyPastEnd, []⟩
  | .ok (contents, rest) => .ok (contents, rest)

/-- The bytes of a body and what follows it, after its size. -/
def read : Reader (Bytes × Bytes) := do
  let size ← Leb128.u32
  let contents ← readContents size.toNat
  let rest ← get
  return (contents, rest)

/-- Every body in the payload of a code section; nothing may follow them. -/
def readAll : Reader (List (Bytes × Bytes)) := do
  let count ← Leb128.u32
  let parts ← Reader.times count.toNat read
  Reader.finish .afterEntries
  return parts

theorem readContents_within (size : Nat) : (readContents size).Within := by
  constructor
  · intro s contents rest run
    unfold readContents at run
    split at run <;> cases run
    rename_i taken
    exact (Reader.Within.bytes size).rest_suffix taken
  · intro s fault run
    unfold readContents at run
    split at run <;> cases run
    exact List.nil_suffix

/-- The bodies in the payload of a code section, numbered in order. -/
def parse (payload : Bytes) : Except Fault (List FunctionBody) :=
  (readAll payload).map fun (parts, _) =>
    parts.mapIdx fun i (contents, rest) => ⟨i.toUInt32, contents, rest⟩

/-- A group of local variables: how many, and their type. -/
def skipLocalGroup : Reader Unit := do
  Leb128.u32.pass
  WasmType.skipValue

/-- The declarations of the local variables. -/
def skipLocals : Reader Unit := do
  let groups ← Leb128.u32
  Reader.skip skipLocalGroup groups.toNat

theorem skipLocals_within : skipLocals.Within :=
  Leb128.u32_within.bind fun _ =>
    (Leb128.u32_within.pass.bind fun _ => WasmType.skipValue_within).skip _

/-- Where in the section a place inside the body stands. -/
def offset (body : FunctionBody) (payload place : Bytes) : Nat :=
  payload.length - (place.length + body.rest.length)

end FunctionBody

end Memoryless
