import Memoryless.Leb128

/-!
# Opcodes

An opcode is a byte, or a lead byte followed by a further number. Four lead bytes open pages of
instructions: garbage collected objects, miscellaneous, vectors and atomics.
-/

namespace Memoryless

/-- An opcode as it stands in the code: a byte, and the number after it if it is a lead byte. -/
structure Opcode where
  byte : UInt8
  sub : Option UInt32
  deriving DecidableEq, Repr, Inhabited

/-- The pages of instructions that a lead byte opens. -/
inductive OpcodePage
  | gc | misc | vector | atomic
  deriving DecidableEq, Repr

namespace OpcodePage

/-- Every page. -/
def all : List OpcodePage :=
  [gc, misc, vector, atomic]

/-- The byte that opens a page. -/
def lead : OpcodePage → UInt8
  | gc => 0xfb
  | misc => 0xfc
  | vector => 0xfd
  | atomic => 0xfe

/-- The page that a byte opens, if any. -/
def ofLead? (b : UInt8) : Option OpcodePage :=
  all.find? fun page => page.lead == b

theorem ofLead?_lead (page : OpcodePage) : ofLead? page.lead = some page := by
  cases page <;> rfl

theorem lead_of_ofLead? {b : UInt8} {page : OpcodePage} (known : ofLead? b = some page) :
    page.lead = b := by
  simpa using List.find?_some known

end OpcodePage

namespace Opcode

/-- The opcode that is a single byte. -/
def single (b : UInt8) : Opcode :=
  ⟨b, none⟩

/-- The opcode that is a byte and a number. -/
def numbered (b : UInt8) (sub : UInt32) : Opcode :=
  ⟨b, some sub⟩

/-- An opcode in messages: the byte in hexadecimal, then the number. -/
def display (op : Opcode) : String :=
  match op.sub with
  | none => Numeral.hexByte op.byte
  | some sub => s!"{Numeral.hexByte op.byte} {sub}"

/-- Reads an opcode. A number follows exactly the lead bytes. -/
def read : Reader Opcode := do
  let b ← Reader.byte
  match OpcodePage.ofLead? b with
  | none => return single b
  | some _ =>
    let sub ← Leb128.u32
    return numbered b sub

theorem read_advances : read.Advances :=
  Reader.Advances.byte.bind fun b => by
    cases OpcodePage.ofLead? b with
    | none => exact .pure _
    | some page => exact Leb128.u32_within.bind fun _ => .pure _

theorem read_within : read.Within :=
  Reader.Within.byte.bind fun b => by
    cases OpcodePage.ofLead? b with
    | none => exact .pure _
    | some page => exact Leb128.u32_within.bind fun _ => .pure _

end Opcode

end Memoryless
