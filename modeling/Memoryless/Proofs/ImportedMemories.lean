import Memoryless.Proofs.Restripping

/-!
# Exports of imported memories

The memories of a module are counted through, those that it imports first. With `j` of them, index `j` is
the first one of the memory section, and an export of a smaller index is one of a memory that the module
has without that section. Removing the memory looks at no imports. `Import.readAll` reads them in their
standard form, beside the program, and `strip_spares_iff` says for which modules only the exports of the
removed memory are dropped: for those that export no imported memory.
-/

namespace Memoryless

/-! ## The import section -/

namespace Import

/-- Takes a value off the front of a byte string, if one is there. Why there is none is not asked. -/
abbrev Take := StateT Bytes Option

variable {α : Type}

/-- What a reader takes. -/
def take (r : Reader α) : Take α := fun s =>
  match r s with
  | .error _ => none
  | .ok found => some found

/-- The next byte, which has to be one of a few. -/
def oneOf (bytes : List UInt8) : Take UInt8 := do
  let b ← take Reader.byte
  guard (b ∈ bytes)
  return b

/-- An index or a count. -/
def number : Take UInt32 :=
  take Leb128.u32

/-- A name of any length, in UTF-8. -/
def skipName : Take Unit := do
  let size ← number
  let text ← take (Reader.bytes size.toNat)
  guard (Name.ofUtf8 text).toBool

/-- An abstract heap type, or the index of a type. -/
def skipHeapType : Take Unit := do
  match (← get).head? with
  | none => failure
  | some b =>
    if WasmType.isAbstractHeap b.toNat then let _ ← take Reader.byte
    else
      let index ← take (Leb128.signed .s33)
      guard (0 ≤ index)

/-- A reference type, or one of a few other types of a byte. -/
def skipReferenceType (others : Nat → Bool) : Take Unit := do
  let b ← take Reader.byte
  if b = 0x63 ∨ b = 0x64 then skipHeapType
  else guard (WasmType.isAbstractHeap b.toNat || others b.toNat)

/-- The limits of a table or a memory. The first byte says whether there is a maximum, whether indices
have 64 bits, and of a memory whether it is shared, which asks for a maximum. -/
def skipLimits (flags : List UInt8) : Take Unit := do
  let b ← oneOf flags
  let _ ← take (Leb128.unsigned .u64)
  if b.toNat.testBit 0 then let _ ← take (Leb128.unsigned .u64)

/-- The type of what is imported. -/
def skipType : ExportKind → Take Unit
  | .function => do let _ ← number
  | .table => do
    skipReferenceType fun _ => false
    skipLimits [0x00, 0x01, 0x04, 0x05]
  | .memory => skipLimits [0x00, 0x01, 0x03, 0x04, 0x05, 0x07]
  | .global => do
    skipReferenceType WasmType.isNumber
    let _ ← oneOf [0x00, 0x01]
  | .tag => do
    let _ ← oneOf [0x00]
    let _ ← number

/-- One import: where it comes from, and its type. Its kind is kept. -/
def read : Take ExportKind := do
  skipName
  skipName
  match ExportKind.ofByte? (← take Reader.byte) with
  | none => failure
  | some kind =>
    skipType kind
    return kind

/-- The kinds of all imports; nothing may follow them. -/
def readAll : Take (List ExportKind) := do
  let count ← number
  let kinds ← (List.replicate count.toNat read).mapM id
  guard (← get).isEmpty
  return kinds

end Import

namespace Module

/-- How many memories a module imports, if its import section can be read. -/
def importedMemories? (m : Module) : Option Nat :=
  match m.section? .imports with
  | none => some 0
  | some x => (Import.readAll x.payload).map fun found => found.1.count .memory

variable {m n : Module}

theorem importedMemories?_eq (same : m.section? .imports = n.section? .imports) :
    m.importedMemories? = n.importedMemories? := by
  unfold importedMemories?
  rw [same]

end Module

/-! ## Stripped files -/

namespace Removal

/-- Of the exports of a module that imports `j` memories, none of an imported memory was removed, and all of
these are kept. -/
structure Spares (j : Nat) (entries kept removed : List Export) : Prop where
  removed_own : ∀ e ∈ removed, j ≤ e.index.toNat
  imported_kept : ∀ e ∈ entries, e.kind = .memory → e.index.toNat < j → e ∈ kept

/-- If the entries are parted by their kinds, the exports of imported memories are spared only where there
are none. -/
theorem spares_filter_iff {j : Nat} {entries : List Export} :
    Spares j entries (entries.filter fun e => e.kind ≠ .memory)
        (entries.filter fun e => e.kind = .memory) ↔
      ∀ e ∈ entries, e.kind = .memory → j ≤ e.index.toNat := by
  refine ⟨fun spares e member isMemory => ?_, fun none => ⟨fun e member => ?_, ?_⟩⟩
  · exact spares.removed_own e (List.mem_filter.mpr ⟨member, decide_eq_true isMemory⟩)
  · obtain ⟨among, isMemory⟩ := List.mem_filter.mp member
    exact none e among (of_decide_eq_true isMemory)
  · intro e member isMemory imported
    exact absurd (none e member isMemory) (Nat.not_le_of_lt imported)

end Removal

variable {parallel : Bool} {file : Bytes} {stripped : Stripped}

/-- Stripping a file leaves the imported memories where they are, and drops the exports of all memories. So
the exports of the imported ones are spared exactly if there are none. -/
theorem strip_spares_iff (success : strip parallel file = .ok stripped) :
    ∃ m remaining entries kept, Module.decode file = .ok m ∧
      Module.decode stripped.bytes = .ok remaining ∧ m.Exports entries ∧ remaining.Exports kept ∧
      remaining.importedMemories? = m.importedMemories? ∧
      (∀ e ∈ entries, e.kind = .memory → e ∈ stripped.removedExports ∧ e ∉ kept) ∧
      ∀ j, m.importedMemories? = some j →
        (Removal.Spares j entries kept stripped.removedExports ↔
          ∀ e ∈ entries, e.kind = .memory → j ≤ e.index.toNat) := by
  obtain ⟨m, removal, decoded, -, run, rfl⟩ := strip_ok success
  have spelled := Module.Spells.of_decode decoded
  obtain ⟨entries, removes, exported, removed⟩ := Module.removeMemory_removes spelled.ordered run
  have sameImports : removal.remaining.section? .imports = m.section? .imports :=
    removes.find?_eq (by decide) (by decide)
  refine ⟨m, removal.remaining, entries, _, decoded, (spelled.removed removes).decode, exported,
    exported.removed removes, Module.importedMemories?_eq sameImports, fun e member isMemory => ?_,
    fun j _ => ?_⟩
  · rw [removed]
    refine ⟨List.mem_filter.mpr ⟨member, decide_eq_true isMemory⟩, fun among => ?_⟩
    exact of_decide_eq_true (List.mem_filter.mp among).2 isMemory
  · rw [removed]
    exact Removal.spares_filter_iff

/-- A function and a memory are imported, and the export of the second memory is dropped. -/
theorem strip_spares_iff_second :
    let imports : Section := ⟨.imports, [2, 1, 0x6d, 1, 0x66, 0, 0, 1, 0x6d, 1, 0x6d, 2, 1, 1, 2]⟩
    let m : Module := ⟨[⟨.types, [1, 0x60, 0, 0]⟩, imports, ⟨.memories, [1, 0, 1]⟩,
      ⟨.exports, [2, 1, 0x65, 2, 1, 1, 0x66, 0, 0]⟩]⟩
    let remaining : Module := ⟨[⟨.types, [1, 0x60, 0, 0]⟩, imports, ⟨.exports, [1, 1, 0x66, 0, 0]⟩]⟩
    strip true m.encode = .ok ⟨remaining.encode, [⟨"e", .memory, 1⟩], 47⟩ ∧
      remaining.importedMemories? = some 1 ∧
      Removal.Spares 1 [⟨"e", .memory, 1⟩, ⟨"f", .function, 0⟩] [⟨"f", .function, 0⟩]
        [⟨"e", .memory, 1⟩] := by
  intro imports m remaining
  have run : strip true m.encode = .ok ⟨remaining.encode, [⟨"e", .memory, 1⟩], 47⟩ := by
    cbv
  have imported : m.importedMemories? = some 1 := by
    cbv
  have decoded : Module.decode m.encode = .ok m := by
    cbv
  have again : Module.decode remaining.encode = .ok remaining := by
    cbv
  have exported : Export.parse [2, 1, 0x65, 2, 1, 1, 0x66, 0, 0] =
      .ok [⟨"e", .memory, 1⟩, ⟨"f", .function, 0⟩] := by
    cbv
  have left : Export.parse [1, 1, 0x66, 0, 0] = .ok [⟨"f", .function, 0⟩] := by
    cbv
  obtain ⟨_, _, entries, kept, read, readAgain, exports, exportsLeft, sameImports, -, spares⟩ :=
    strip_spares_iff run
  cases decoded.symm.trans read
  cases again.symm.trans readAgain
  cases exported.symm.trans exports
  cases left.symm.trans exportsLeft
  exact ⟨run, sameImports.trans imported, (spares 1 imported).mpr (by decide)⟩

/-- The first of two memories is imported. Its export is dropped although it stays. -/
theorem strip_not_spares :
    let imports : Section := ⟨.imports, [1, 1, 0x6d, 1, 0x6d, 2, 0, 1]⟩
    let m : Module := ⟨[imports, ⟨.memories, [1, 0, 1]⟩, ⟨.exports, [1, 1, 0x65, 2, 0]⟩]⟩
    let remaining : Module := ⟨[imports]⟩
    strip false m.encode = .ok ⟨remaining.encode, [⟨"e", .memory, 0⟩], 30⟩ ∧
      Module.decode m.encode = .ok m ∧ Module.decode remaining.encode = .ok remaining ∧
      m.importedMemories? = some 1 ∧ m.Exports [⟨"e", .memory, 0⟩] ∧ remaining.Exports [] ∧
      ¬Removal.Spares 1 [⟨"e", .memory, 0⟩] [] [⟨"e", .memory, 0⟩] := by
  intro imports m remaining
  have parsed : Export.parse [1, 1, 0x65, 2, 0] = .ok [⟨"e", .memory, 0⟩] := by
    cbv
  refine ⟨by cbv, by cbv, by cbv, by cbv, parsed, rfl, fun spares => ?_⟩
  exact absurd (spares.removed_own _ List.mem_cons_self) (by decide)

end Memoryless
