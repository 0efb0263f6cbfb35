import Memoryless.Instruction.Immediate
import Memoryless.Instruction.Opcode

/-!
# The instruction set

Which opcodes are assigned, and what follows each. The instructions of a page with the same immediates
are one row, from the first of their numbers to the last; a number in no row is not assigned.
-/

namespace Memoryless

/-- Consecutive instructions with the same immediates. -/
structure InstructionRow where
  first : Nat
  last : Nat
  immediates : List Immediate
  deriving Repr

namespace InstructionRow

/-- Is the number in the row? -/
def contains (row : InstructionRow) (n : Nat) : Bool :=
  row.first ≤ n && n ≤ row.last

/-- The immediates of the instruction with the number `n` in a list of rows. -/
def lookup? (rows : List InstructionRow) (n : Nat) : Option (List Immediate) :=
  (rows.find? fun row => row.contains n).map immediates

end InstructionRow

namespace InstructionSet

open Immediate

/-- A row of a single instruction. -/
def one (n : Nat) (immediates : List Immediate) : InstructionRow :=
  ⟨n, n, immediates⟩

/-- The instructions whose opcode is a single byte. -/
def single : List InstructionRow := [
  ⟨0x00, 0x01, []⟩,
  ⟨0x02, 0x04, [blockType]⟩,
  one 0x05 [],
  one 0x06 [blockType],
  ⟨0x07, 0x08, [index .tag]⟩,
  one 0x09 [index .label],
  ⟨0x0a, 0x0b, []⟩,
  ⟨0x0c, 0x0d, [index .label]⟩,
  one 0x0e [branchTable],
  one 0x0f [],
  one 0x10 [index .function],
  one 0x11 [index .type, index .table],
  one 0x12 [index .function],
  one 0x13 [index .type, index .table],
  ⟨0x14, 0x15, [index .type]⟩,
  one 0x18 [index .label],
  ⟨0x19, 0x1b, []⟩,
  one 0x1c [resultTypes],
  one 0x1f [blockType, catches],
  ⟨0x20, 0x22, [index .localVariable]⟩,
  ⟨0x23, 0x24, [index .global]⟩,
  ⟨0x25, 0x26, [index .table]⟩,
  ⟨0x28, 0x3e, [memoryAccess]⟩,
  ⟨0x3f, 0x40, [index .memory]⟩,
  one 0x41 [integer .i32],
  one 0x42 [integer .i64],
  one 0x43 [constant 4],
  one 0x44 [constant 8],
  ⟨0x45, 0xc4, []⟩,
  one 0xd0 [heapType],
  one 0xd1 [],
  one 0xd2 [index .function],
  ⟨0xd3, 0xd4, []⟩,
  ⟨0xd5, 0xd6, [index .label]⟩]

/-- Structures, arrays and references. -/
def gc : List InstructionRow := [
  ⟨0x00, 0x01, [index .type]⟩,
  ⟨0x02, 0x05, [index .type, index .field]⟩,
  ⟨0x06, 0x07, [index .type]⟩,
  one 0x08 [index .type, count],
  one 0x09 [index .type, index .data],
  one 0x0a [index .type, index .element],
  ⟨0x0b, 0x0e, [index .type]⟩,
  one 0x0f [],
  one 0x10 [index .type],
  one 0x11 [index .type, index .type],
  one 0x12 [index .type, index .data],
  one 0x13 [index .type, index .element],
  ⟨0x14, 0x17, [heapType]⟩,
  ⟨0x18, 0x19, [castBranch]⟩,
  ⟨0x1a, 0x1e, []⟩]

/-- Saturating conversions, and bulk operations on memories and tables. -/
def misc : List InstructionRow := [
  ⟨0, 7, []⟩,
  one 8 [index .data, index .memory],
  one 9 [index .data],
  one 10 [index .memory, index .memory],
  one 11 [index .memory],
  one 12 [index .element, index .table],
  one 13 [index .element],
  one 14 [index .table, index .table],
  ⟨15, 17, [index .table]⟩,
  one 18 [index .memory]]

/-- Vectors. -/
def vector : List InstructionRow := [
  ⟨0x00, 0x0b, [memoryAccess]⟩,
  one 0x0c [constant 16],
  one 0x0d [shuffle],
  ⟨0x0e, 0x14, []⟩,
  ⟨0x15, 0x17, [lane 16]⟩,
  ⟨0x18, 0x1a, [lane 8]⟩,
  ⟨0x1b, 0x1c, [lane 4]⟩,
  ⟨0x1d, 0x1e, [lane 2]⟩,
  ⟨0x1f, 0x20, [lane 4]⟩,
  ⟨0x21, 0x22, [lane 2]⟩,
  ⟨0x23, 0x53, []⟩,
  one 0x54 [memoryAccess, lane 16],
  one 0x55 [memoryAccess, lane 8],
  one 0x56 [memoryAccess, lane 4],
  one 0x57 [memoryAccess, lane 2],
  one 0x58 [memoryAccess, lane 16],
  one 0x59 [memoryAccess, lane 8],
  one 0x5a [memoryAccess, lane 4],
  one 0x5b [memoryAccess, lane 2],
  ⟨0x5c, 0x5d, [memoryAccess]⟩,
  ⟨0x5e, 0x99, []⟩,
  ⟨0x9b, 0xa1, []⟩,
  ⟨0xa3, 0xa4, []⟩,
  ⟨0xa7, 0xae, []⟩,
  one 0xb1 [],
  ⟨0xb5, 0xba, []⟩,
  ⟨0xbc, 0xc1, []⟩,
  ⟨0xc3, 0xc4, []⟩,
  ⟨0xc7, 0xce, []⟩,
  one 0xd1 [],
  ⟨0xd5, 0xe1, []⟩,
  ⟨0xe3, 0xed, []⟩,
  ⟨0xef, 0x113, []⟩]

/-- Atomic accesses to memories and globals. -/
def atomic : List InstructionRow := [
  ⟨0x00, 0x02, [memoryAccess]⟩,
  one 0x03 [reserved],
  ⟨0x10, 0x4e, [memoryAccess]⟩,
  ⟨0x4f, 0x57, [ordering, index .global]⟩]

/-- The instructions of a page. -/
def page : OpcodePage → List InstructionRow
  | .gc => gc
  | .misc => misc
  | .vector => vector
  | .atomic => atomic

end InstructionSet

namespace Opcode

/-- What follows an opcode in the code, if it is assigned. -/
def immediates? (op : Opcode) : Option (List Immediate) :=
  match op.sub with
  | none => InstructionRow.lookup? InstructionSet.single op.byte.toNat
  | some n =>
    match OpcodePage.ofLead? op.byte with
    | none => none
    | some page => InstructionRow.lookup? (InstructionSet.page page) n.toNat

/-- What an instruction does to the nesting of blocks. -/
inductive Nesting
  | opens | closes | level
  deriving DecidableEq, Repr

/-- Blocks, loops, conditionals and the two forms of exception handling open a level; an end closes one,
and so does a delegation to an outer handler. -/
def nesting (op : Opcode) : Nesting :=
  match op.sub with
  | some _ => .level
  | none =>
    if op.byte ∈ [0x02, 0x03, 0x04, 0x06, 0x1f] then .opens
    else if op.byte ∈ [0x0b, 0x18] then .closes
    else .level

end Opcode

end Memoryless
