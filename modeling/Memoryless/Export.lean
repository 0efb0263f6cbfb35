import Memoryless.Name

/-!
# Exports

An export section counts its entries and lists them: a name, what kind of thing is exported, and the
index of that thing. Reading takes padded numbers too; writing gives the shortest form.
-/

namespace Memoryless

/-- The kinds of thing a module can export. -/
inductive ExportKind
  | function | table | memory | global | tag
  deriving DecidableEq, Repr, Inhabited

namespace ExportKind

/-- Every kind, in the order of the bytes that stand for them. -/
def all : List ExportKind :=
  [function, table, memory, global, tag]

/-- The byte that stands for a kind. -/
def byte : ExportKind → UInt8
  | function => 0
  | table => 1
  | memory => 2
  | global => 3
  | tag => 4

/-- The kind that a byte stands for, if any. -/
def ofByte? (b : UInt8) : Option ExportKind :=
  all.find? fun kind => kind.byte == b

theorem ofByte?_byte (kind : ExportKind) : ofByte? kind.byte = some kind := by
  cases kind <;> rfl

theorem byte_of_ofByte? {b : UInt8} {kind : ExportKind} (known : ofByte? b = some kind) :
    kind.byte = b := by
  simpa using List.find?_some known

end ExportKind

/-- An entry of the export section. -/
structure Export where
  name : String
  kind : ExportKind
  index : UInt32
  deriving DecidableEq, Repr, Inhabited

namespace Export

/-- Does the entry export a memory? -/
def isMemory (e : Export) : Bool :=
  e.kind = .memory

/-- The kind that a byte stands for, or why it stands for none. -/
def kindOfByte (b : UInt8) : Except Reason ExportKind :=
  match ExportKind.ofByte? b with
  | some kind => .ok kind
  | none => .error (.exportKind b)

/-- Reads one entry. -/
def read : Reader Export := do
  let name ← Name.read
  let kind ← Reader.byte.refine .first kindOfByte
  let index ← Leb128.u32
  return { name, kind, index }

/-- Reads all entries; nothing may follow them. -/
def readAll : Reader (List Export) := do
  let count ← Leb128.u32
  let entries ← Reader.times count.toNat read
  Reader.finish .afterEntries
  return entries

theorem read_within : read.Within :=
  Name.read_within.bind fun _ => (Reader.Within.byte.refine ..).bind fun _ =>
    Leb128.u32_within.bind fun _ => .pure _

/-- The entries in the payload of an export section. -/
def parse (payload : Bytes) : Except Fault (List Export) :=
  (readAll payload).map Prod.fst

/-- Writes one entry. -/
def write (e : Export) : Bytes :=
  Name.write e.name ++ e.kind.byte :: Leb128.ofNat e.index.toNat

/-- The payload of an export section with the given entries. -/
def writeAll (entries : List Export) : Bytes :=
  Leb128.ofNat entries.length.toUInt32.toNat ++ entries.flatMap write

end Export

end Memoryless
