import Memoryless.Proofs.MemoryRemoval

/-!
# How much shorter a stripped file is

What is left of a section is written in no more bytes than the section took in the file: sizes may have been
padded there, and are not when they are written. `Removal.Removes.length_write_le` adds this up over the
sections of a file, with the three bytes that a memory section takes at least and the entries that an
export section loses; `Module.Spells.length_encode_add_le` compares the files, and `strip_saves` is what
follows for a whole run.
-/

namespace Memoryless

namespace Section

/-! ## Frames -/

variable {x : Section} {s : Bytes}

theorem Frames.length_write_le (frame : x.Frames s) : x.write.length ≤ s.length := by
  rcases frame with ⟨size, here, rfl⟩
  have shorter := here.groups.length_ofNat_le
  rw [write, List.length_cons, List.length_cons, List.length_append, List.length_append]
  omega

/-- The number or name that a payload opens with takes a byte. -/
theorem Opens.payload_pos (opened : x.Opens) : 0 < x.payload.length := by
  have front : ∃ number n more, Leb128.Spells 32 number n ∧ x.payload = number ++ more := by
    unfold Opens at opened
    split at opened
    · rcases opened with ⟨text, name, more, ⟨size, rfl, here, -⟩, split⟩
      exact ⟨size, _, Name.utf8 name ++ more, here, by rw [split, List.append_assoc]⟩
    · rcases opened with ⟨n, here⟩
      exact ⟨x.payload, n, [], here, (List.append_nil _).symm⟩
    · rcases opened with ⟨n, here⟩
      exact ⟨x.payload, n, [], here, (List.append_nil _).symm⟩
    · rcases opened with ⟨count, n, more, here, split⟩
      exact ⟨count, n, more, here, split⟩
  rcases front with ⟨number, n, more, here, split⟩
  have positive := here.groups.length_pos
  rw [split, List.length_append]
  omega

/-- A frame takes three bytes at least: the id, the size, and a payload that opens. -/
theorem Frames.three_le (frame : x.Frames s) (opened : x.Opens) : 3 ≤ s.length := by
  rcases frame with ⟨size, here, rfl⟩
  have sizePositive := here.groups.length_pos
  have payloadPositive := opened.payload_pos
  rw [List.length_cons, List.length_append]
  omega

end Section

namespace Export

/-! ## Entries -/

/-- A form of an entry that no other is shorter than. -/
def Shortest (s : Bytes) (e : Export) : Prop :=
  Spells s e ∧ ∀ other, Spells other e → s.length ≤ other.length

theorem Shortest.write {e : Export} (small : (Name.utf8 e.name).length ≤ Name.limit) :
    Shortest (write e) e :=
  ⟨.write small, fun _ spelled => spelled.length_write_le⟩

/-- How many bytes the entries that export a memory take in their shortest forms. -/
def memorySize (entries : List Export) : Nat :=
  ((entries.filter fun e => e.kind = .memory).flatMap write).length

/-- The entries that export no memory are written in the bytes that the others leave. -/
theorem SpellsAll.length_writeAll_add_memorySize_le {entries : List Export} {payload : Bytes}
    (spelled : SpellsAll payload entries) :
    (Export.writeAll (entries.filter fun e => e.kind ≠ .memory)).length + memorySize entries ≤
      payload.length := by
  have parts : ((entries.filter fun e => e.kind ≠ .memory) ++
      entries.filter fun e => e.kind = .memory).Perm entries := by
    simpa using List.filter_append_perm (fun e : Export => decide (e.kind ≠ .memory)) entries
  exact spelled.length_writeAll_add_le parts

end Export

namespace Removal

/-! ## Sections -/

variable {entries : List Export}

theorem Pruned.length_write_le {x : Section} {out : List Section} {s : Bytes}
    (pruned : Pruned entries x out) (parsed : Export.parse x.payload = .ok entries)
    (frame : x.Frames s) :
    (out.flatMap Section.write).length + Export.memorySize entries ≤ s.length := by
  have smaller := (Export.parse_ok_iff.mp parsed).length_writeAll_add_memorySize_le
  cases pruned with
  | kept none =>
      have nothing : (entries.filter fun e => e.kind = .memory) = [] :=
        List.filter_eq_nil_iff.mpr fun e member => by simpa using none e member
      rw [Export.memorySize, nothing, List.flatMap_singleton]
      exact frame.length_write_le
  | dropped _ _ =>
      rcases frame with ⟨size, -, rfl⟩
      rw [List.flatMap_nil, List.length_nil, List.length_cons, List.length_append]
      omega
  | rewritten _ _ =>
      rcases frame with ⟨size, here, rfl⟩
      have shorterSize := Nat.le_trans
        (Leb128.length_ofNat_mono (Nat.le_trans (Nat.le_add_right _ _) smaller))
        here.groups.length_ofNat_le
      rw [List.flatMap_singleton, Section.write]
      simp only [List.length_cons, List.length_append]
      omega

/-- What is left of some sections is shorter than they were in the file, by three bytes for each memory
section and by its memory exports for each export section. -/
theorem Removes.length_write_le {sections remaining : List Section} {frames : Bytes}
    (removes : Removes entries sections remaining) (row : Form.Row Section.Frames frames sections)
    (opened : ∀ x ∈ sections, x.Opens) :
    (remaining.flatMap Section.write).length +
        (3 * (sections.countP fun x => x.id = .memories) +
          Export.memorySize entries * sections.countP fun x => x.id = .exports) ≤
      frames.length := by
  induction removes generalizing frames with
  | nil => exact Nat.zero_le _
  | @memory x sections remaining isMemory _ ih =>
      obtain ⟨opens, later⟩ := List.forall_mem_cons.mp opened
      cases row with
      | @cons front back _ _ frame row =>
          have shorter := ih row later
          have three := frame.three_le opens
          have notExports : x.id ≠ .exports := by rw [isMemory]; decide
          rw [List.countP_cons_of_pos (by simpa using isMemory),
            List.countP_cons_of_neg (by simpa using notExports), List.length_append]
          omega
  | @exports x sections remaining out isExports parsed pruned _ ih =>
      obtain ⟨opens, later⟩ := List.forall_mem_cons.mp opened
      cases row with
      | @cons front back _ _ frame row =>
          have shorter := ih row later
          have here := pruned.length_write_le parsed frame
          have notMemory : x.id ≠ .memories := by rw [isExports]; decide
          rw [List.countP_cons_of_neg (by simpa using notMemory),
            List.countP_cons_of_pos (by simpa using isExports), List.length_append,
            List.flatMap_append, List.length_append, Nat.mul_succ]
          omega
  | @other x sections remaining notMemory notExports _ ih =>
      obtain ⟨opens, later⟩ := List.forall_mem_cons.mp opened
      cases row with
      | @cons front back _ _ frame row =>
          have shorter := ih row later
          have here := frame.length_write_le
          rw [List.countP_cons_of_neg (by simpa using notMemory),
            List.countP_cons_of_neg (by simpa using notExports), List.length_append,
            List.flatMap_cons, List.length_append]
          omega

end Removal

/-! ## Files -/

namespace Module

variable {m : Module} {entries : List Export}

/-- Entries stand in the one export section, if there are any. -/
theorem Exports.parsed (exported : m.Exports entries) :
    entries = [] ∨
      ∃ x, (m.sections.filter fun y => y.id = .exports) = [x] ∧
        Export.parse x.payload = .ok entries := by
  unfold Exports at exported
  split at exported
  · exact Or.inl exported
  · rename_i x alone
    exact Or.inr ⟨x, alone, exported⟩
  · exact exported.elim

theorem Exports.name_le (exported : m.Exports entries) :
    ∀ e ∈ entries, (Name.utf8 e.name).length ≤ Name.limit := by
  rcases exported.parsed with rfl | ⟨x, -, parsed⟩
  · exact List.forall_mem_nil _
  · exact (Export.parse_ok_iff.mp parsed).name_le

theorem Exports.memorySize_le (exported : m.Exports entries) :
    Export.memorySize entries ≤
      Export.memorySize entries * m.sections.countP fun x => x.id = .exports := by
  rcases exported.parsed with rfl | ⟨x, alone, -⟩
  · exact Nat.zero_le _
  · rw [List.countP_eq_length_filter, alone, List.length_singleton, Nat.mul_one]

/-- What a file is written in once its memory section is removed, next to what it took. -/
theorem Spells.length_encode_add_le {n : Module} {file : Bytes} (spelled : Spells file m)
    (removes : Removal.Removes entries m.sections n.sections) (exported : m.Exports entries)
    (memory : ∃ x ∈ m.sections, x.id = .memories) :
    n.encode.length + (3 + Export.memorySize entries) ≤ file.length := by
  rcases spelled.framed with ⟨frames, rfl, row⟩
  have shorter := removes.length_write_le row spelled.opened
  have once : 0 < m.sections.countP fun x => x.id = .memories :=
    List.countP_pos_iff.mpr (by simpa using memory)
  have lost := exported.memorySize_le
  rw [Module.encode, List.length_append, List.length_append]
  omega

end Module

/-- A stripped file is shorter than the input, by the memory section, which takes three bytes at least, and
by the exports that were removed, each counted in its shortest form. -/
theorem strip_saves {parallel : Bool} {file : Bytes} {stripped : Stripped}
    (success : strip parallel file = .ok stripped) :
    stripped.inputSize = file.length ∧ stripped.bytes.length < file.length ∧
      stripped.bytes.length + stripped.saved = file.length ∧
      3 + (stripped.removedExports.map fun e => (Export.write e).length).sum ≤ stripped.saved ∧
      ∀ e ∈ stripped.removedExports, Export.Shortest (Export.write e) e := by
  obtain ⟨m, removal, decoded, -, run, rfl⟩ := strip_ok success
  have spelled := Module.Spells.of_decode decoded
  obtain ⟨⟨memory, found⟩, -, -⟩ := Module.removeMemory_ok run
  obtain ⟨entries, removes, exported, removed⟩ := Module.removeMemory_removes spelled.ordered run
  have saving := spelled.length_encode_add_le removes exported
    ⟨memory, List.mem_of_find?_eq_some found, Module.id_of_section? found⟩
  have shortest : ∀ e ∈ removal.removedExports, Export.Shortest (Export.write e) e := by
    intro e member
    rw [removed] at member
    exact .write (exported.name_le e (List.mem_of_mem_filter member))
  have size : (removal.removedExports.map fun e => (Export.write e).length).sum =
      Export.memorySize entries := by
    rw [removed, Export.memorySize, List.length_flatMap]
  refine ⟨rfl, ?_, ?_, ?_, shortest⟩
  · show removal.remaining.encode.length < file.length
    omega
  · show removal.remaining.encode.length + (file.length - removal.remaining.encode.length) = file.length
    omega
  · show 3 + (removal.removedExports.map fun e => (Export.write e).length).sum ≤
      file.length - removal.remaining.encode.length
    omega

/-- A count and two indices that are padded in the input. -/
theorem strip_saves_padded :
    strip false
        (header ++ [5, 1, 0, 7, 15, 0x82, 0, 1, 0x6d, 2, 0x80, 0x80, 0x80, 0x80, 0, 1, 0x66, 0, 0x80, 0,
          0, 2, 1, 0x61]) =
      .ok ⟨header ++ [7, 5, 1, 1, 0x66, 0, 0, 0, 2, 1, 0x61], [⟨"m", .memory, 0⟩], 32⟩ ∧
      3 + ([⟨"m", .memory, 0⟩].map fun e => (Export.write e).length).sum ≤ 32 - 19 := by
  have run : strip false
      (header ++ [5, 1, 0, 7, 15, 0x82, 0, 1, 0x6d, 2, 0x80, 0x80, 0x80, 0x80, 0, 1, 0x66, 0, 0x80, 0,
        0, 2, 1, 0x61]) =
      .ok ⟨header ++ [7, 5, 1, 1, 0x66, 0, 0, 0, 2, 1, 0x61], [⟨"m", .memory, 0⟩], 32⟩ := by
    cbv
  obtain ⟨-, -, -, saved, -⟩ := strip_saves run
  exact ⟨run, saved⟩

end Memoryless
