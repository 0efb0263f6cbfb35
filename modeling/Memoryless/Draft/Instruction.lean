import Memoryless.Leb128

/-!
# Instructions of drafts

The instructions that drafts are made of, and how they are written. A block may have any type: nothing, a
value type, or the index of a function type. An index in a type is written as a signed integer, since the
types that have a byte of their own take the place of the negative ones.
-/

namespace Memoryless

/-! ## Types -/

/-- What a reference may refer to without a type of the module. -/
inductive HeapKind
  | function | external | any | eq | i31 | struct | array | exception
  | none | noExternal | noFunction | noException
  deriving DecidableEq, Repr

/-- The byte of a kind. -/
def HeapKind.byte : HeapKind → UInt8
  | exception => 0x69
  | array => 0x6a
  | struct => 0x6b
  | i31 => 0x6c
  | eq => 0x6d
  | any => 0x6e
  | external => 0x6f
  | function => 0x70
  | none => 0x71
  | noExternal => 0x72
  | noFunction => 0x73
  | noException => 0x74

/-- What a reference refers to: a kind, which may be shared between threads, or a type of the module. -/
inductive HeapType
  | abstract (shared : Bool) (kind : HeapKind)
  | concrete (index : UInt32)
  deriving DecidableEq, Repr

/-- Writes a heap type. -/
def HeapType.write : HeapType → Bytes
  | abstract false kind => [kind.byte]
  | abstract true kind => [0x65, kind.byte]
  | concrete index => Leb128.ofInt index.toNat

/-- The type of a value. -/
inductive ValueType
  | i32 | i64 | f32 | f64 | v128
  | reference (nullable : Bool) (heap : HeapType)
  deriving DecidableEq, Repr

/-- Writes a value type. Two of the references that admit null are a single byte. -/
def ValueType.write : ValueType → Bytes
  | i32 => [0x7f]
  | i64 => [0x7e]
  | f32 => [0x7d]
  | f64 => [0x7c]
  | v128 => [0x7b]
  | reference true (.abstract false .function) => [0x70]
  | reference true (.abstract false .external) => [0x6f]
  | reference true heap => 0x63 :: heap.write
  | reference false heap => 0x64 :: heap.write

/-- The type of a block: no result, one result, or a function type of the module. -/
inductive BlockType
  | empty
  | result (type : ValueType)
  | functionType (index : UInt32)
  deriving DecidableEq, Repr

/-- Writes the type of a block. -/
def BlockType.write : BlockType → Bytes
  | empty => [0x40]
  | result type => type.write
  | functionType index => Leb128.ofInt index.toNat

/-! ## Instructions -/

/-- The instructions that drafts are made of. -/
inductive DraftInstruction
  | nop
  | drop
  /-- Closes a block or the function. -/
  | close
  | i32Add
  | block (type : BlockType := .empty)
  | loop (type : BlockType := .empty)
  | branch (label : UInt32)
  | call (function : UInt32)
  | i32Const (value : Int)
  | memorySize (memory : UInt32)
  | memoryGrow (memory : UInt32)
  | i32Load (alignment : UInt32) (offset : UInt64) (memory : UInt32)
  deriving DecidableEq, Repr

namespace DraftInstruction

/-- Where a memory access goes. The first memory is not written; another one follows the alignment, with
bit 6 set to announce it. -/
def writeAccess (alignment : UInt32) (offset : UInt64) (memory : UInt32) : Bytes :=
  if memory = 0 then Leb128.ofNat alignment.toNat ++ Leb128.ofNat offset.toNat
  else
    Leb128.ofNat (alignment ||| 64).toNat ++ Leb128.ofNat memory.toNat ++ Leb128.ofNat offset.toNat

/-- Writes an instruction. -/
def write : DraftInstruction → Bytes
  | nop => [0x01]
  | drop => [0x1a]
  | close => [0x0b]
  | i32Add => [0x6a]
  | block type => 0x02 :: type.write
  | loop type => 0x03 :: type.write
  | branch label => 0x0c :: Leb128.ofNat label.toNat
  | call function => 0x10 :: Leb128.ofNat function.toNat
  | i32Const value => 0x41 :: Leb128.ofInt value
  | memorySize memory => 0x3f :: Leb128.ofNat memory.toNat
  | memoryGrow memory => 0x40 :: Leb128.ofNat memory.toNat
  | i32Load alignment offset memory => 0x28 :: writeAccess alignment offset memory

end DraftInstruction

end Memoryless
