import Memoryless.Instruction
import Memoryless.Instruction.Memory

/-!
# Operators

What an instruction is, apart from the number that its opcode has. Each operator on a memory has a name; an
operator that needs no memory is kept as its opcode. `OperatorSet` says which opcodes stand for the operators
with a name, by runs of consecutive numbers, and `MemoryOpcode.ofOperator?` which memory instruction an operator
is. So there are two ways from the code to a memory instruction: by its opcode, or by its operator.
-/

namespace Memoryless

/-- What an instruction is, without its immediates. -/
inductive Operator
  | i32Load | i64Load | f32Load | f64Load
  | i32Load8S | i32Load8U | i32Load16S | i32Load16U
  | i64Load8S | i64Load8U | i64Load16S | i64Load16U | i64Load32S | i64Load32U
  | i32Store | i64Store | f32Store | f64Store
  | i32Store8 | i32Store16 | i64Store8 | i64Store16 | i64Store32
  | memorySize | memoryGrow
  | memoryInit | memoryCopy | memoryFill | memoryDiscard
  | v128Load | v128Load8x8S | v128Load8x8U | v128Load16x4S
  | v128Load16x4U | v128Load32x2S | v128Load32x2U
  | v128Load8Splat | v128Load16Splat | v128Load32Splat | v128Load64Splat | v128Store
  | v128Load8Lane | v128Load16Lane | v128Load32Lane | v128Load64Lane
  | v128Store8Lane | v128Store16Lane | v128Store32Lane | v128Store64Lane
  | v128Load32Zero | v128Load64Zero
  | memoryAtomicNotify | memoryAtomicWait32 | memoryAtomicWait64
  | i32AtomicLoad | i64AtomicLoad | i32AtomicLoad8U | i32AtomicLoad16U
  | i64AtomicLoad8U | i64AtomicLoad16U | i64AtomicLoad32U
  | i32AtomicStore | i64AtomicStore | i32AtomicStore8 | i32AtomicStore16
  | i64AtomicStore8 | i64AtomicStore16 | i64AtomicStore32
  | i32AtomicRmwAdd | i64AtomicRmwAdd | i32AtomicRmw8AddU | i32AtomicRmw16AddU
  | i64AtomicRmw8AddU | i64AtomicRmw16AddU | i64AtomicRmw32AddU
  | i32AtomicRmwSub | i64AtomicRmwSub | i32AtomicRmw8SubU | i32AtomicRmw16SubU
  | i64AtomicRmw8SubU | i64AtomicRmw16SubU | i64AtomicRmw32SubU
  | i32AtomicRmwAnd | i64AtomicRmwAnd | i32AtomicRmw8AndU | i32AtomicRmw16AndU
  | i64AtomicRmw8AndU | i64AtomicRmw16AndU | i64AtomicRmw32AndU
  | i32AtomicRmwOr | i64AtomicRmwOr | i32AtomicRmw8OrU | i32AtomicRmw16OrU
  | i64AtomicRmw8OrU | i64AtomicRmw16OrU | i64AtomicRmw32OrU
  | i32AtomicRmwXor | i64AtomicRmwXor | i32AtomicRmw8XorU | i32AtomicRmw16XorU
  | i64AtomicRmw8XorU | i64AtomicRmw16XorU | i64AtomicRmw32XorU
  | i32AtomicRmwXchg | i64AtomicRmwXchg | i32AtomicRmw8XchgU | i32AtomicRmw16XchgU
  | i64AtomicRmw8XchgU | i64AtomicRmw16XchgU | i64AtomicRmw32XchgU
  | i32AtomicRmwCmpxchg | i64AtomicRmwCmpxchg | i32AtomicRmw8CmpxchgU | i32AtomicRmw16CmpxchgU
  | i64AtomicRmw8CmpxchgU | i64AtomicRmw16CmpxchgU | i64AtomicRmw32CmpxchgU
  /-- An instruction that needs no memory. -/
  | other (op : Opcode)
  deriving DecidableEq, Repr

/-- The operators of consecutive opcodes, from the first number on. -/
structure OperatorRow where
  first : Nat
  operators : List Operator
  deriving Repr

namespace OperatorRow

/-- The operator with the number `n` in a row. -/
def operator? (row : OperatorRow) (n : Nat) : Option Operator :=
  if row.first ≤ n then row.operators[n - row.first]? else none

/-- The operator with the number `n` in a list of rows. -/
def lookup? (rows : List OperatorRow) (n : Nat) : Option Operator :=
  rows.findSome? fun row => row.operator? n

end OperatorRow

namespace OperatorSet

open Operator

/-- The memory operators whose opcode is a single byte. -/
def single : List OperatorRow := [
  ⟨0x28, [
    i32Load, i64Load, f32Load, f64Load,
    i32Load8S, i32Load8U, i32Load16S, i32Load16U,
    i64Load8S, i64Load8U, i64Load16S, i64Load16U, i64Load32S, i64Load32U,
    i32Store, i64Store, f32Store, f64Store,
    i32Store8, i32Store16, i64Store8, i64Store16, i64Store32,
    memorySize, memoryGrow]⟩]

/-- The memory operators among those on memories and tables as a whole. -/
def misc : List OperatorRow := [
  ⟨8, [memoryInit]⟩,
  ⟨10, [memoryCopy, memoryFill]⟩,
  ⟨18, [memoryDiscard]⟩]

/-- The memory operators on vectors. -/
def vector : List OperatorRow := [
  ⟨0x00, [
    v128Load, v128Load8x8S, v128Load8x8U, v128Load16x4S,
    v128Load16x4U, v128Load32x2S, v128Load32x2U,
    v128Load8Splat, v128Load16Splat, v128Load32Splat, v128Load64Splat, v128Store]⟩,
  ⟨0x54, [
    v128Load8Lane, v128Load16Lane, v128Load32Lane, v128Load64Lane,
    v128Store8Lane, v128Store16Lane, v128Store32Lane, v128Store64Lane,
    v128Load32Zero, v128Load64Zero]⟩]

/-- The atomic memory operators. -/
def atomic : List OperatorRow := [
  ⟨0x00, [
    memoryAtomicNotify, memoryAtomicWait32, memoryAtomicWait64]⟩,
  ⟨0x10, [
    i32AtomicLoad, i64AtomicLoad, i32AtomicLoad8U, i32AtomicLoad16U,
    i64AtomicLoad8U, i64AtomicLoad16U, i64AtomicLoad32U,
    i32AtomicStore, i64AtomicStore, i32AtomicStore8, i32AtomicStore16,
    i64AtomicStore8, i64AtomicStore16, i64AtomicStore32,
    i32AtomicRmwAdd, i64AtomicRmwAdd, i32AtomicRmw8AddU, i32AtomicRmw16AddU,
    i64AtomicRmw8AddU, i64AtomicRmw16AddU, i64AtomicRmw32AddU,
    i32AtomicRmwSub, i64AtomicRmwSub, i32AtomicRmw8SubU, i32AtomicRmw16SubU,
    i64AtomicRmw8SubU, i64AtomicRmw16SubU, i64AtomicRmw32SubU,
    i32AtomicRmwAnd, i64AtomicRmwAnd, i32AtomicRmw8AndU, i32AtomicRmw16AndU,
    i64AtomicRmw8AndU, i64AtomicRmw16AndU, i64AtomicRmw32AndU,
    i32AtomicRmwOr, i64AtomicRmwOr, i32AtomicRmw8OrU, i32AtomicRmw16OrU,
    i64AtomicRmw8OrU, i64AtomicRmw16OrU, i64AtomicRmw32OrU,
    i32AtomicRmwXor, i64AtomicRmwXor, i32AtomicRmw8XorU, i32AtomicRmw16XorU,
    i64AtomicRmw8XorU, i64AtomicRmw16XorU, i64AtomicRmw32XorU,
    i32AtomicRmwXchg, i64AtomicRmwXchg, i32AtomicRmw8XchgU, i32AtomicRmw16XchgU,
    i64AtomicRmw8XchgU, i64AtomicRmw16XchgU, i64AtomicRmw32XchgU,
    i32AtomicRmwCmpxchg, i64AtomicRmwCmpxchg, i32AtomicRmw8CmpxchgU, i32AtomicRmw16CmpxchgU,
    i64AtomicRmw8CmpxchgU, i64AtomicRmw16CmpxchgU, i64AtomicRmw32CmpxchgU]⟩]

/-- The memory operators of a page. -/
def page : OpcodePage → List OperatorRow
  | .gc => []
  | .misc => misc
  | .vector => vector
  | .atomic => atomic

end OperatorSet

namespace Opcode

/-- The memory operator that an opcode stands for, if any. -/
def memoryOperator? (op : Opcode) : Option Operator :=
  match op.sub with
  | none => OperatorRow.lookup? OperatorSet.single op.byte.toNat
  | some n =>
    match OpcodePage.ofLead? op.byte with
    | none => none
    | some page => OperatorRow.lookup? (OperatorSet.page page) n.toNat

/-- The operator that an opcode stands for. -/
def operator (op : Opcode) : Operator :=
  op.memoryOperator?.getD (.other op)

end Opcode

namespace Operator

/-- The operator of the next instruction, and what follows its immediates. -/
def read (s : Bytes) : Except CodeFault (Operator × Bytes) :=
  (Instruction.next s).map fun result => (result.1.operator, result.2)

/-- What an operator does to the nesting of blocks. Those on a memory leave it as it is. -/
def nesting : Operator → Opcode.Nesting
  | other op => op.nesting
  | _ => .level

end Operator

namespace MemoryOpcode

/-- The memory instruction that an operator is. -/
def ofOperator? : Operator → Option MemoryOpcode
  | .i32Load => some i32Load
  | .i64Load => some i64Load
  | .f32Load => some f32Load
  | .f64Load => some f64Load
  | .i32Load8S => some i32Load8S
  | .i32Load8U => some i32Load8U
  | .i32Load16S => some i32Load16S
  | .i32Load16U => some i32Load16U
  | .i64Load8S => some i64Load8S
  | .i64Load8U => some i64Load8U
  | .i64Load16S => some i64Load16S
  | .i64Load16U => some i64Load16U
  | .i64Load32S => some i64Load32S
  | .i64Load32U => some i64Load32U
  | .i32Store => some i32Store
  | .i64Store => some i64Store
  | .f32Store => some f32Store
  | .f64Store => some f64Store
  | .i32Store8 => some i32Store8
  | .i32Store16 => some i32Store16
  | .i64Store8 => some i64Store8
  | .i64Store16 => some i64Store16
  | .i64Store32 => some i64Store32
  | .memorySize => some memorySize
  | .memoryGrow => some memoryGrow
  | .memoryInit => some memoryInit
  | .memoryCopy => some memoryCopy
  | .memoryFill => some memoryFill
  | .memoryDiscard => some memoryDiscard
  | .v128Load => some (vector 0x00)
  | .v128Load8x8S => some (vector 0x01)
  | .v128Load8x8U => some (vector 0x02)
  | .v128Load16x4S => some (vector 0x03)
  | .v128Load16x4U => some (vector 0x04)
  | .v128Load32x2S => some (vector 0x05)
  | .v128Load32x2U => some (vector 0x06)
  | .v128Load8Splat => some (vector 0x07)
  | .v128Load16Splat => some (vector 0x08)
  | .v128Load32Splat => some (vector 0x09)
  | .v128Load64Splat => some (vector 0x0a)
  | .v128Store => some (vector 0x0b)
  | .v128Load8Lane => some (vector 0x54)
  | .v128Load16Lane => some (vector 0x55)
  | .v128Load32Lane => some (vector 0x56)
  | .v128Load64Lane => some (vector 0x57)
  | .v128Store8Lane => some (vector 0x58)
  | .v128Store16Lane => some (vector 0x59)
  | .v128Store32Lane => some (vector 0x5a)
  | .v128Store64Lane => some (vector 0x5b)
  | .v128Load32Zero => some (vector 0x5c)
  | .v128Load64Zero => some (vector 0x5d)
  | .memoryAtomicNotify => some (atomic 0x00)
  | .memoryAtomicWait32 => some (atomic 0x01)
  | .memoryAtomicWait64 => some (atomic 0x02)
  | .i32AtomicLoad => some (atomic 0x10)
  | .i64AtomicLoad => some (atomic 0x11)
  | .i32AtomicLoad8U => some (atomic 0x12)
  | .i32AtomicLoad16U => some (atomic 0x13)
  | .i64AtomicLoad8U => some (atomic 0x14)
  | .i64AtomicLoad16U => some (atomic 0x15)
  | .i64AtomicLoad32U => some (atomic 0x16)
  | .i32AtomicStore => some (atomic 0x17)
  | .i64AtomicStore => some (atomic 0x18)
  | .i32AtomicStore8 => some (atomic 0x19)
  | .i32AtomicStore16 => some (atomic 0x1a)
  | .i64AtomicStore8 => some (atomic 0x1b)
  | .i64AtomicStore16 => some (atomic 0x1c)
  | .i64AtomicStore32 => some (atomic 0x1d)
  | .i32AtomicRmwAdd => some (atomic 0x1e)
  | .i64AtomicRmwAdd => some (atomic 0x1f)
  | .i32AtomicRmw8AddU => some (atomic 0x20)
  | .i32AtomicRmw16AddU => some (atomic 0x21)
  | .i64AtomicRmw8AddU => some (atomic 0x22)
  | .i64AtomicRmw16AddU => some (atomic 0x23)
  | .i64AtomicRmw32AddU => some (atomic 0x24)
  | .i32AtomicRmwSub => some (atomic 0x25)
  | .i64AtomicRmwSub => some (atomic 0x26)
  | .i32AtomicRmw8SubU => some (atomic 0x27)
  | .i32AtomicRmw16SubU => some (atomic 0x28)
  | .i64AtomicRmw8SubU => some (atomic 0x29)
  | .i64AtomicRmw16SubU => some (atomic 0x2a)
  | .i64AtomicRmw32SubU => some (atomic 0x2b)
  | .i32AtomicRmwAnd => some (atomic 0x2c)
  | .i64AtomicRmwAnd => some (atomic 0x2d)
  | .i32AtomicRmw8AndU => some (atomic 0x2e)
  | .i32AtomicRmw16AndU => some (atomic 0x2f)
  | .i64AtomicRmw8AndU => some (atomic 0x30)
  | .i64AtomicRmw16AndU => some (atomic 0x31)
  | .i64AtomicRmw32AndU => some (atomic 0x32)
  | .i32AtomicRmwOr => some (atomic 0x33)
  | .i64AtomicRmwOr => some (atomic 0x34)
  | .i32AtomicRmw8OrU => some (atomic 0x35)
  | .i32AtomicRmw16OrU => some (atomic 0x36)
  | .i64AtomicRmw8OrU => some (atomic 0x37)
  | .i64AtomicRmw16OrU => some (atomic 0x38)
  | .i64AtomicRmw32OrU => some (atomic 0x39)
  | .i32AtomicRmwXor => some (atomic 0x3a)
  | .i64AtomicRmwXor => some (atomic 0x3b)
  | .i32AtomicRmw8XorU => some (atomic 0x3c)
  | .i32AtomicRmw16XorU => some (atomic 0x3d)
  | .i64AtomicRmw8XorU => some (atomic 0x3e)
  | .i64AtomicRmw16XorU => some (atomic 0x3f)
  | .i64AtomicRmw32XorU => some (atomic 0x40)
  | .i32AtomicRmwXchg => some (atomic 0x41)
  | .i64AtomicRmwXchg => some (atomic 0x42)
  | .i32AtomicRmw8XchgU => some (atomic 0x43)
  | .i32AtomicRmw16XchgU => some (atomic 0x44)
  | .i64AtomicRmw8XchgU => some (atomic 0x45)
  | .i64AtomicRmw16XchgU => some (atomic 0x46)
  | .i64AtomicRmw32XchgU => some (atomic 0x47)
  | .i32AtomicRmwCmpxchg => some (atomic 0x48)
  | .i64AtomicRmwCmpxchg => some (atomic 0x49)
  | .i32AtomicRmw8CmpxchgU => some (atomic 0x4a)
  | .i32AtomicRmw16CmpxchgU => some (atomic 0x4b)
  | .i64AtomicRmw8CmpxchgU => some (atomic 0x4c)
  | .i64AtomicRmw16CmpxchgU => some (atomic 0x4d)
  | .i64AtomicRmw32CmpxchgU => some (atomic 0x4e)
  | .other _ => none

end MemoryOpcode

end Memoryless
