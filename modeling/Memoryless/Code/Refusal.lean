import Memoryless.Code.MemoryUse

/-!
# Refusals

The reader of instructions refuses what it cannot read with a text and an offset, and gives nothing else. If an
opcode is not assigned, the text says so, but the opcode is reported as a value. So it is read again from the
body, at the offset that was blamed: `FunctionBody.unknownOpcode?` does this, and goes by how the text begins.
-/

namespace Memoryless

/-- How the reader of instructions refuses something: a text, and an offset in the code section. -/
structure Refusal where
  message : String
  offset : Nat
  deriving DecidableEq, Repr

/-- Does a text begin as it does for an opcode that is not assigned? -/
def Refusal.namesOpcode (message : String) : Bool :=
  "illegal opcode".toList.isPrefixOf message.toList || "unknown 0x".toList.isPrefixOf message.toList

/-- The wording for an opcode that is not assigned. -/
def Opcode.refused (op : Opcode) : String :=
  match op.sub with
  | none => s!"illegal opcode: {Numeral.hex op.byte.toNat}"
  | some sub => s!"unknown {Numeral.hex op.byte.toNat} subopcode: {Numeral.hex sub.toNat}"

/-- The wording of a fault. -/
def CodeFault.message : CodeFault → String
  | unknownOpcode op _ => op.refused
  | malformed fault => fault.reason.message

/-- The opcode that is reported of a fault. -/
def CodeFault.opcode? : CodeFault → Option Opcode
  | unknownOpcode op _ => some op
  | malformed _ => none

namespace FunctionBody

/-- The offset at which a body begins in the section. -/
def start (body : FunctionBody) (payload : Bytes) : Nat :=
  body.offset payload body.contents

/-- The offset with which a fault is refused. -/
def refusedAt (body : FunctionBody) (payload : Bytes) : CodeFault → Nat
  | .unknownOpcode _ place => body.offset payload place
  | .malformed fault => body.faultOffset payload fault

/-- How a fault in a body is refused. -/
def refusal (body : FunctionBody) (payload : Bytes) (fault : CodeFault) : Refusal where
  message := fault.message
  offset := body.refusedAt payload fault

/-- Reads the opcode again that is refused for not being assigned. If the text is about something else, or
the offset is in front of the body or behind it, there is none. -/
def unknownOpcode? (body : FunctionBody) (payload : Bytes) (refusal : Refusal) : Option Opcode := do
  guard (Refusal.namesOpcode refusal.message)
  guard (body.start payload ≤ refusal.offset)
  let place ← Bytes.from? (refusal.offset - body.start payload) body.contents
  let (op, _) ← (Opcode.read place).toOption
  return op

/-- The wording of what is reported of a refusal. -/
def reported (body : FunctionBody) (payload : Bytes) (refusal : Refusal) : String :=
  match body.unknownOpcode? payload refusal with
  | some op => (ScanError.unknownOpcode op body.index refusal.offset).message
  | none =>
    s!"malformed body of function {body.index} at code offset {Numeral.hex refusal.offset}: {refusal.message}"

end FunctionBody

end Memoryless
