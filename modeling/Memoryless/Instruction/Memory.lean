import Memoryless.Instruction.Opcode

/-!
# Memory instructions

The instructions that read, write, measure or grow a memory. Those on a page with many of them are
named by their number; the others have a name of their own. Each has one opcode (`MemoryOpcode.opcode`). The
tables that look a number up are written out on their own, and `ofByte?_eq_some_iff` and
`ofMisc?_eq_some_iff` are that they agree with it.
-/

namespace Memoryless

/-- An instruction that needs a memory. -/
inductive MemoryOpcode
  | i32Load | i64Load | f32Load | f64Load
  | i32Load8S | i32Load8U | i32Load16S | i32Load16U
  | i64Load8S | i64Load8U | i64Load16S | i64Load16U | i64Load32S | i64Load32U
  | i32Store | i64Store | f32Store | f64Store
  | i32Store8 | i32Store16 | i64Store8 | i64Store16 | i64Store32
  | memorySize | memoryGrow
  | memoryInit | memoryCopy | memoryFill | memoryDiscard
  /-- Loads and stores of vectors, and of single lanes. -/
  | vector (sub : UInt32)
  /-- Atomic accesses. -/
  | atomic (sub : UInt32)
  deriving DecidableEq, Repr, Inhabited

namespace MemoryOpcode

/-- The opcode of an instruction. -/
def opcode : MemoryOpcode → Opcode
  | i32Load => .single 0x28
  | i64Load => .single 0x29
  | f32Load => .single 0x2a
  | f64Load => .single 0x2b
  | i32Load8S => .single 0x2c
  | i32Load8U => .single 0x2d
  | i32Load16S => .single 0x2e
  | i32Load16U => .single 0x2f
  | i64Load8S => .single 0x30
  | i64Load8U => .single 0x31
  | i64Load16S => .single 0x32
  | i64Load16U => .single 0x33
  | i64Load32S => .single 0x34
  | i64Load32U => .single 0x35
  | i32Store => .single 0x36
  | i64Store => .single 0x37
  | f32Store => .single 0x38
  | f64Store => .single 0x39
  | i32Store8 => .single 0x3a
  | i32Store16 => .single 0x3b
  | i64Store8 => .single 0x3c
  | i64Store16 => .single 0x3d
  | i64Store32 => .single 0x3e
  | memorySize => .single 0x3f
  | memoryGrow => .single 0x40
  | memoryInit => .numbered OpcodePage.misc.lead 8
  | memoryCopy => .numbered OpcodePage.misc.lead 10
  | memoryFill => .numbered OpcodePage.misc.lead 11
  | memoryDiscard => .numbered OpcodePage.misc.lead 18
  | vector sub => .numbered OpcodePage.vector.lead sub
  | atomic sub => .numbered OpcodePage.atomic.lead sub

/-- The name of an instruction in the text format. Of those named by their number, only the plain
vector load and store have one here. -/
def mnemonic? : MemoryOpcode → Option String
  | i32Load => some "i32.load"
  | i64Load => some "i64.load"
  | f32Load => some "f32.load"
  | f64Load => some "f64.load"
  | i32Load8S => some "i32.load8_s"
  | i32Load8U => some "i32.load8_u"
  | i32Load16S => some "i32.load16_s"
  | i32Load16U => some "i32.load16_u"
  | i64Load8S => some "i64.load8_s"
  | i64Load8U => some "i64.load8_u"
  | i64Load16S => some "i64.load16_s"
  | i64Load16U => some "i64.load16_u"
  | i64Load32S => some "i64.load32_s"
  | i64Load32U => some "i64.load32_u"
  | i32Store => some "i32.store"
  | i64Store => some "i64.store"
  | f32Store => some "f32.store"
  | f64Store => some "f64.store"
  | i32Store8 => some "i32.store8"
  | i32Store16 => some "i32.store16"
  | i64Store8 => some "i64.store8"
  | i64Store16 => some "i64.store16"
  | i64Store32 => some "i64.store32"
  | memorySize => some "memory.size"
  | memoryGrow => some "memory.grow"
  | memoryInit => some "memory.init"
  | memoryCopy => some "memory.copy"
  | memoryFill => some "memory.fill"
  | memoryDiscard => some "memory.discard"
  | vector sub => if sub = 0 then some "v128.load" else if sub = 11 then some "v128.store" else none
  | atomic _ => none

/-- An instruction in messages: its name in the text format, or else its opcode. -/
def display (op : MemoryOpcode) : String :=
  op.mnemonic?.getD op.opcode.display

/-- The memory instruction with a single byte as its opcode. -/
def ofByte? : UInt8 → Option MemoryOpcode
  | 0x28 => some i32Load
  | 0x29 => some i64Load
  | 0x2a => some f32Load
  | 0x2b => some f64Load
  | 0x2c => some i32Load8S
  | 0x2d => some i32Load8U
  | 0x2e => some i32Load16S
  | 0x2f => some i32Load16U
  | 0x30 => some i64Load8S
  | 0x31 => some i64Load8U
  | 0x32 => some i64Load16S
  | 0x33 => some i64Load16U
  | 0x34 => some i64Load32S
  | 0x35 => some i64Load32U
  | 0x36 => some i32Store
  | 0x37 => some i64Store
  | 0x38 => some f32Store
  | 0x39 => some f64Store
  | 0x3a => some i32Store8
  | 0x3b => some i32Store16
  | 0x3c => some i64Store8
  | 0x3d => some i64Store16
  | 0x3e => some i64Store32
  | 0x3f => some memorySize
  | 0x40 => some memoryGrow
  | _ => none

/-- The memory instruction with a number on the miscellaneous page. -/
def ofMisc? : UInt32 → Option MemoryOpcode
  | 8 => some memoryInit
  | 10 => some memoryCopy
  | 11 => some memoryFill
  | 18 => some memoryDiscard
  | _ => none

/-- The memory instruction with a number on the vector page: whole vectors, lanes, and zero-extended
lanes. -/
def ofVector? (sub : UInt32) : Option MemoryOpcode :=
  if sub ≤ 0x0b || 0x54 ≤ sub && sub ≤ 0x5d then some (vector sub) else none

/-- The memory instruction with a number on the atomic page: notifying and waiting, and accesses. -/
def ofAtomic? (sub : UInt32) : Option MemoryOpcode :=
  if sub ≤ 0x02 || 0x10 ≤ sub && sub ≤ 0x4e then some (atomic sub) else none

/-- The memory instruction with a number on a page. -/
def onPage? : OpcodePage → UInt32 → Option MemoryOpcode
  | .gc, _ => none
  | .misc, sub => ofMisc? sub
  | .vector, sub => ofVector? sub
  | .atomic, sub => ofAtomic? sub

/-- The memory instruction with a given opcode. -/
def ofOpcode? (op : Opcode) : Option MemoryOpcode :=
  match op.sub with
  | none => ofByte? op.byte
  | some sub => OpcodePage.ofLead? op.byte >>= fun page => onPage? page sub

/-! ## Tables and opcodes -/

variable {b : UInt8} {sub : UInt32} {found : MemoryOpcode}

/-- The table of single bytes has every instruction with such an opcode, and no other. -/
theorem ofByte?_eq_some_iff : ofByte? b = some found ↔ found.opcode = .single b := by
  constructor
  · intro known
    unfold ofByte? at known
    split at known <;> cases known <;> rfl
  · intro same
    cases found <;> cases same <;> rfl

/-- The table of the miscellaneous page has every instruction with a number on it, and no other. -/
theorem ofMisc?_eq_some_iff :
    ofMisc? sub = some found ↔ found.opcode = .numbered OpcodePage.misc.lead sub := by
  constructor
  · intro known
    unfold ofMisc? at known
    split at known <;> cases known <;> rfl
  · intro same
    cases found <;> cases same <;> rfl

end MemoryOpcode

end Memoryless
