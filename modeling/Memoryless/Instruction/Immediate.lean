import Memoryless.Leb128

/-!
# Immediates

What follows an opcode. To find the next instruction only the extent of an immediate matters, so it is
passed over and not kept; `skip_within` says that this stays inside the code. The kinds are told apart
as far as their form or their meaning asks: of all indices, those of memories are the ones that this
library looks for.
-/

namespace Memoryless

/-- What an index counts. -/
inductive IndexSpace
  | type | function | table | memory | global | tag | element | data | localVariable | label | field
  deriving DecidableEq, Repr

/-- The kinds of immediate. -/
inductive Immediate
  /-- An index. -/
  | index (space : IndexSpace)
  /-- How many operands there are. -/
  | count
  /-- Alignment and offset of a memory access, and the memory unless it is the first. -/
  | memoryAccess
  /-- One of so many lanes of a vector. -/
  | lane (lanes : Nat)
  /-- The sixteen lanes of a shuffle, out of two vectors. -/
  | shuffle
  /-- A number of fixed size in bytes. -/
  | constant (size : Nat)
  /-- A signed integer. -/
  | integer (format : IntegerFormat)
  /-- The type of a block. -/
  | blockType
  /-- What a reference refers to. -/
  | heapType
  /-- The labels of a branch table, and the default one. -/
  | branchTable
  /-- The type of the result of a typed selection. -/
  | resultTypes
  /-- The handlers of a block that catches exceptions. -/
  | catches
  /-- Flags, label, and the two types of a branch on a cast. -/
  | castBranch
  /-- The byte after a fence, which has to be zero. -/
  | reserved
  /-- The ordering of an atomic access. -/
  | ordering
  deriving DecidableEq, Repr

open Reader

/-! ## Types -/

namespace WasmType

/-- Is this the byte of an abstract heap type? -/
def isAbstractHeap (n : Nat) : Bool :=
  0x69 ≤ n && n ≤ 0x74

/-- Is this the byte of a number or vector type? -/
def isNumber (n : Nat) : Bool :=
  0x7b ≤ n && n ≤ 0x7f

/-- Type indices are below this bound. -/
def indexLimit : Int := 0x100000

/-- A heap type given by a type index. -/
def skipHeapIndex : Reader Unit :=
  ((Leb128.signed .s33).require .after .indexedHeapType fun z => 0 ≤ z)
    |>.require .after .typeIndexLimit (fun z => z < indexLimit)
    |>.pass

/-- A shared abstract heap type, after its lead byte, given how the kind is written: in a value type it
is an integer, in a heap type a byte. -/
def skipShared (kind : Reader Nat) : Reader Unit := do
  (kind.require .after .abstractHeapType isAbstractHeap).pass

/-- A heap type. -/
def skipHeap : Reader Unit :=
  peek fun b =>
    if isAbstractHeap b.toNat then byte.pass
    else if b = 0x65 then do
      byte.pass
      skipShared (UInt8.toNat <$> byte)
    else skipHeapIndex

/-- A value type. -/
def skipValue : Reader Unit :=
  peek fun b =>
    if isNumber b.toNat || isAbstractHeap b.toNat then byte.pass
    else if b = 0x63 || b = 0x64 then do
      byte.pass
      skipHeap
    else if b = 0x65 then do
      byte.pass
      skipShared (UInt32.toNat <$> Leb128.u32)
    else fail .valueType

/-- The type of a block: none, a value type, or the index of a function type. -/
def skipBlock : Reader Unit :=
  peek fun b =>
    if b = 0x40 then byte.pass
    else if 0x40 < b && b < 0x80 then skipValue
    else ((Leb128.signed .s33).require .after .functionType fun z => 0 ≤ z).pass

end WasmType

/-! ## Passing over an immediate -/

namespace Immediate

/-- An index or count. -/
def skipNumber : Reader Unit :=
  Leb128.u32.pass

/-- The alignment of a memory access, and the index of the memory if bit 6 says that it follows. -/
def alignment : Reader UInt32 := do
  let flags ← Leb128.u32
  if flags.toNat.testBit 6 then skipNumber
  return flags

/-- Alignment, memory and offset of an access. Apart from bit 6 the alignment has to be below 64. -/
def skipMemoryAccess : Reader Unit := do
  (alignment.require .first .alignment fun flags => flags < 128).pass
  (Leb128.unsigned .u64).pass

/-- A lane index below `lanes`. -/
def skipLane (lanes : Nat) : Reader Unit :=
  (byte.require .first .laneIndex fun b => b.toNat < lanes).pass

/-- A count of at most `limit`, and what depends on it. -/
def skipCounted (limit : Nat) (reason : Reason) (items : Nat → Reader Unit) : Reader Unit := do
  let n ← Leb128.u32.require .first reason fun n => n.toNat ≤ limit
  items n.toNat

/-- The kind of a handler: whether it catches all, and whether it keeps the exception. -/
def catchKind : Reader UInt8 :=
  byte.refine .first fun b => if b ≤ 3 then .ok b else .error (.catchKind b)

/-- One handler: its kind, the tag unless it catches all, and the label. -/
def skipCatch : Reader Unit := do
  let kind ← catchKind
  Reader.skip skipNumber (if kind ≤ 1 then 2 else 1)

/-- Exactly one result type. -/
def skipResultTypes : Reader Unit := do
  (Leb128.u32.require .after .resultArity fun n => n = 1).pass
  WasmType.skipValue

/-- The flags and the label of a branch on a cast. The flags say of each type whether it admits null, and
nothing else. -/
def castFlags : Reader UInt8 := do
  let flags ← byte
  skipNumber
  return flags

/-- A branch on a cast. -/
def skipCastBranch : Reader Unit := do
  (castFlags.refine .first fun b => if b ≤ 3 then .ok () else .error (.castFlags b)).pass
  Reader.skip WasmType.skipHeap 2

/-- An ordering is 0 or 1. -/
def skipOrdering : Reader Unit :=
  Leb128.u32.refine .last fun n => if n ≤ 1 then .ok () else .error (.atomicOrdering n.toNat)

/-- Passes over one immediate. -/
def skip : Immediate → Reader Unit
  | index _ | count => skipNumber
  | memoryAccess => skipMemoryAccess
  | lane lanes => skipLane lanes
  | shuffle => Reader.skip (skipLane 32) 16
  | constant size => (bytes size).pass
  | integer format => (Leb128.signed format).pass
  | blockType => WasmType.skipBlock
  | heapType => WasmType.skipHeap
  | branchTable => skipCounted 131072 .branchTableSize fun n => Reader.skip skipNumber (n + 1)
  | resultTypes => skipResultTypes
  | catches => skipCounted 10000 .catchesSize (Reader.skip skipCatch)
  | castBranch => skipCastBranch
  | reserved => (byte.require .first .reservedByte fun b => b = 0).pass
  | ordering => skipOrdering

/-- Passes over the immediates of an instruction. -/
def skipAll : List Immediate → Reader Unit
  | [] => pure ()
  | kind :: kinds => do
    skip kind
    skipAll kinds

/-- Does the immediate say where in a memory, or in which memory, something happens? -/
def touchesMemory : Immediate → Bool
  | memoryAccess | index .memory => true
  | _ => false

end Immediate

/-! ## Immediates stay inside the code -/

namespace WasmType

theorem skipHeapIndex_within : Within skipHeapIndex :=
  (((Leb128.signed_within .s33).require ..).require ..).pass

theorem skipShared_within {kind : Reader Nat} (each : Within kind) : Within (skipShared kind) :=
  (each.require ..).pass

theorem skipHeap_within : Within skipHeap :=
  .peek fun b => by
    split
    · exact Within.byte.pass
    · split
      · exact Within.byte.pass.bind fun _ => skipShared_within Within.byte.map
      · exact skipHeapIndex_within

theorem skipValue_within : Within skipValue :=
  .peek fun b => by
    split
    · exact Within.byte.pass
    · split
      · exact Within.byte.pass.bind fun _ => skipHeap_within
      · split
        · exact Within.byte.pass.bind fun _ => skipShared_within Leb128.u32_within.map
        · exact .fail _

theorem skipBlock_within : Within skipBlock :=
  .peek fun b => by
    split
    · exact Within.byte.pass
    · split
      · exact skipValue_within
      · exact ((Leb128.signed_within .s33).require ..).pass

theorem skipValue_advances : Advances skipValue :=
  Advances.peek fun b => by
    split
    · exact Advances.byte.pass
    · split
      · exact Advances.bind Advances.byte.pass fun _ => skipHeap_within
      · split
        · exact Advances.bind Advances.byte.pass fun _ => skipShared_within Leb128.u32_within.map
        · exact Advances.fail _

/-- The type of a block takes at least one byte. -/
theorem skipBlock_advances : Advances skipBlock :=
  Advances.peek fun b => by
    split
    · exact Advances.byte.pass
    · split
      · exact skipValue_advances
      · exact Advances.pass (Advances.require (Leb128.signed_advances .s33) _ _ _)

end WasmType

namespace Immediate

theorem skipNumber_within : Within skipNumber :=
  Leb128.u32_within.pass

theorem alignment_within : Within alignment :=
  Leb128.u32_within.bind fun flags => by
    split
    · exact skipNumber_within.bind fun _ => .pure _
    · exact .pure _

theorem skipLane_within (lanes : Nat) : Within (skipLane lanes) :=
  (Within.byte.require ..).pass

theorem skipCounted_within {limit : Nat} {reason : Reason} {items : Nat → Reader Unit}
    (each : ∀ n, Within (items n)) : Within (skipCounted limit reason items) :=
  (Leb128.u32_within.require ..).bind fun n => each n.toNat

theorem skipCatch_within : Within skipCatch :=
  (Within.byte.refine ..).bind fun _ => skipNumber_within.skip _

theorem castFlags_within : Within castFlags :=
  Within.byte.bind fun _ => skipNumber_within.bind fun _ => .pure _

theorem skip_within (kind : Immediate) : Within (skip kind) := by
  cases kind with
  | index | count => exact skipNumber_within
  | memoryAccess =>
      exact (alignment_within.require ..).pass.bind fun _ => (Leb128.unsigned_within .u64).pass
  | lane lanes => exact skipLane_within lanes
  | shuffle => exact (skipLane_within 32).skip 16
  | constant size => exact (Within.bytes size).pass
  | integer format => exact (Leb128.signed_within format).pass
  | blockType => exact WasmType.skipBlock_within
  | heapType => exact WasmType.skipHeap_within
  | branchTable => exact skipCounted_within fun n => skipNumber_within.skip (n + 1)
  | resultTypes =>
      exact (Leb128.u32_within.require ..).pass.bind fun _ => WasmType.skipValue_within
  | catches => exact skipCounted_within fun n => skipCatch_within.skip n
  | castBranch =>
      exact (castFlags_within.refine ..).pass.bind fun _ => WasmType.skipHeap_within.skip 2
  | reserved => exact (Within.byte.require ..).pass
  | ordering => exact Leb128.u32_within.refine ..

theorem skipAll_within (kinds : List Immediate) : Within (skipAll kinds) := by
  induction kinds with
  | nil => exact .pure _
  | cons kind kinds ih => exact (skip_within kind).bind fun _ => ih

end Immediate

end Memoryless
