import Memoryless.Code
import Memoryless.Draft.Instruction
import Memoryless.Export
import Memoryless.Module.Binary

/-!
# Drafts

Small modules put together from parts: functions without parameters that return a number, at most one
memory, exports, data at address 0 and custom sections. A function is added as the bytes of its body,
whatever they are; `Part.function` makes one from instructions. What a draft describes is written section
by section, in the order of their ranks and with every size and count in its shortest form.
-/

namespace Memoryless

/-- A part that is added to a draft. -/
inductive Draft.Part
  | memory
  /-- A function with the given body: its local variables and its instructions. -/
  | body (contents : Bytes)
  | functionExport (name : String) (index : UInt32)
  | memoryExport (name : String)
  | data (bytes : Bytes)
  | custom (name : String) (contents : Bytes)
  deriving DecidableEq, Repr

/-- The parts of a module, sorted by their kinds and each kind in the order in which they were added. -/
structure Draft where
  memory : Bool := false
  /-- The bodies of the functions. -/
  functions : List Bytes := []
  exports : List Export := []
  data : List Bytes := []
  customs : List (String × Bytes) := []
  deriving DecidableEq, Repr

namespace Draft

/-! ## Functions -/

/-- The body of a function: no local variables, its instructions, and the one that closes it. -/
def writeBody (instructions : List DraftInstruction) : Bytes :=
  0x00 :: (instructions ++ [DraftInstruction.close]).flatMap DraftInstruction.write

/-- A function without local variables, made of instructions. -/
def Part.function (instructions : List DraftInstruction) : Part :=
  .body (writeBody instructions)

/-- The function that returns 42. -/
def answer : List DraftInstruction :=
  [.i32Const 42]

/-! ## Adding parts -/

def withMemory (d : Draft) : Draft :=
  { d with memory := true }

def withFunction (d : Draft) (contents : Bytes) : Draft :=
  { d with functions := d.functions ++ [contents] }

def withFunctionExport (d : Draft) (name : String) (index : UInt32) : Draft :=
  { d with exports := d.exports ++ [⟨name, .function, index⟩] }

def withMemoryExport (d : Draft) (name : String) : Draft :=
  { d with exports := d.exports ++ [⟨name, .memory, 0⟩] }

def withData (d : Draft) (bytes : Bytes) : Draft :=
  { d with data := d.data ++ [bytes] }

def withCustom (d : Draft) (name : String) (contents : Bytes) : Draft :=
  { d with customs := d.customs ++ [(name, contents)] }

/-- Adds a part. -/
def add (d : Draft) : Part → Draft
  | .memory => d.withMemory
  | .body contents => d.withFunction contents
  | .functionExport name index => d.withFunctionExport name index
  | .memoryExport name => d.withMemoryExport name
  | .data bytes => d.withData bytes
  | .custom name contents => d.withCustom name contents

/-- The draft that some parts make, added one after the other. -/
def ofParts (parts : List Part) : Draft :=
  parts.foldl add {}

/-! ## Writing -/

/-- Some bytes after their number. -/
def writeSized (bytes : Bytes) : Bytes :=
  Leb128.ofNat bytes.length ++ bytes

/-- The payload of a code section with the given bodies. -/
def writeCode (bodies : List Bytes) : Bytes :=
  Leb128.ofNat bodies.length.toUInt32.toNat ++ bodies.flatMap writeSized

/-- A data segment that is put at address 0. -/
def writeSegment (bytes : Bytes) : Bytes :=
  [0x00, 0x41, 0x00, 0x0b] ++ writeSized bytes

/-- The bodies of the functions. A draft without functions has the one that returns 42. -/
def bodies (d : Draft) : List Bytes :=
  if d.functions.isEmpty then [writeBody answer] else d.functions

/-- A section that holds some entries after their number. The size is known before the payload is put
together. -/
def writeEntries (id : SectionId) (count : Nat) (entries : Bytes) : Bytes :=
  let number := Leb128.ofNat count.toUInt32.toNat
  id.byte :: (Leb128.ofNat (number.length + entries.length) ++ (number ++ entries))

/-- A custom section with a name. -/
def writeCustom (custom : String × Bytes) : Bytes :=
  let text := Name.utf8 custom.1
  let number := Leb128.ofNat text.length
  SectionId.custom.byte ::
    (Leb128.ofNat (number.length + text.length + custom.2.length) ++ (number ++ text ++ custom.2))

/-- The one type, of a function without parameters that returns a number. -/
def writeType : Bytes :=
  [0x60, 0x00, 0x01, 0x7f]

/-- A memory of one page. -/
def writeMemory : Bytes :=
  [0x00, 0x01]

/-- The module that a draft describes, in binary form. Every function has the one type. Sections that
would be empty are left out, except for those of the functions. -/
def finish (d : Draft) : Bytes :=
  header ++
    writeEntries .types 1 writeType ++
    writeEntries .functions d.bodies.length (List.replicate d.bodies.length 0x00) ++
    (if d.memory then writeEntries .memories 1 writeMemory else []) ++
    (if d.exports.isEmpty then []
      else writeEntries .exports d.exports.length (d.exports.flatMap Export.write)) ++
    writeEntries .code d.bodies.length (d.bodies.flatMap writeSized) ++
    (if d.data.isEmpty then [] else writeEntries .data d.data.length (d.data.flatMap writeSegment)) ++
    d.customs.flatMap writeCustom

end Draft

end Memoryless
