import Memoryless.Export
import Memoryless.Module

/-!
# Removing the memory

Takes the memory section out of a module, and the exports of a memory with it. Sections may repeat in a
module that was not read from a file; then the first of each kind is meant, and the others stay. The
module must already be known not to use its memory.
-/

namespace Memoryless

/-- Why the memory cannot be removed. -/
inductive RemovalError
  | noMemory
  | dataSegments (count : UInt32)
  | malformedSection (id : SectionId) (offset : Nat) (reason : Reason)
  deriving DecidableEq, Repr

/-- The wording of an error. -/
def RemovalError.message : RemovalError → String
  | noMemory => "module has no memory section to remove"
  | dataSegments count => s!"data section still initializes memory with {count} segment(s)"
  | malformedSection id offset reason =>
    s!"malformed {id.name} section at offset {Numeral.hex offset}: {reason.message}"

/-- A module without the memory, and the exports that were removed with it. -/
structure Removal where
  remaining : Module
  removedExports : List Export
  deriving DecidableEq, Repr

namespace Removal

/-- The error of a section whose payload cannot be read. -/
def malformed (s : Section) (fault : Fault) : RemovalError :=
  .malformedSection s.id (Bytes.offset s.payload fault.rest) fault.reason

/-- The number of data segments of a module. Nothing but the count is read. -/
def dataSegments (m : Module) : Except RemovalError UInt32 :=
  match m.section? .data with
  | none => .ok 0
  | some data =>
    match Leb128.u32 data.payload with
    | .error fault => .error (malformed data fault)
    | .ok (count, _) => .ok count

/-- The entries of an export section. -/
def parseExports (s : Section) : Except RemovalError (List Export) :=
  (Export.parse s.payload).mapError (malformed s)

/-- Removes the memory exports from an export section. A section that loses nothing keeps its bytes, even
when it is empty; one that loses every entry is dropped. -/
def prune (s : Section) : Except RemovalError (List Section × List Export) :=
  (parseExports s).map fun entries =>
    match entries.partition Export.isMemory with
    | ([], _) => ([s], [])
    | (removed, []) => ([], removed)
    | (removed, kept) => ([{ s with payload := Export.writeAll kept }], removed)

/-- Removes the memory exports from the first export section of a list. -/
def pruneFirst (sections : List Section) : Except RemovalError (List Section × List Export) :=
  match sections.span fun s => s.id ≠ .exports with
  | (_, []) => .ok (sections, [])
  | (before, s :: after) => do
    let (pruned, removed) ← prune s
    return (before ++ pruned ++ after, removed)

end Removal

namespace Module

/-- Removes the memory section, and every export of a memory. -/
def removeMemory (m : Module) : Except RemovalError Removal := do
  match m.section? .memories with
  | none => throw .noMemory
  | some _ =>
    -- Without a memory, active segments would have nothing to initialize.
    let count ← Removal.dataSegments m
    if count ≠ 0 then throw (.dataSegments count)
    let (sections, removedExports) ←
      Removal.pruneFirst (m.sections.eraseP fun s => s.id = .memories)
    return { remaining := ⟨sections⟩, removedExports }

/-- The module without its memory, where it does not matter which exports are removed. -/
def withoutMemory (m : Module) : Except RemovalError Module :=
  m.removeMemory.map Removal.remaining

end Module

end Memoryless
