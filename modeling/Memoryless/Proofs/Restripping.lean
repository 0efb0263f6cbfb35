import Memoryless.Proofs.MemoryRemoval

/-!
# Stripping a stripped file

The verdict on a module depends on its first code section only (`Module.scan_eq_of_section?_eq`), and removing
the memory leaves that section alone. So a stripped file is read, is found clean once more, and is refused
for the one reason that is left: there is no memory to remove.
-/

namespace Memoryless

/-- Sections of other kinds are found as before. -/
theorem Removal.Removes.find?_eq {entries : List Export} {sections remaining : List Section}
    (removes : Removes entries sections remaining) {id : SectionId} (notMemory : id ≠ .memories)
    (notExports : id ≠ .exports) :
    (remaining.find? fun x => x.id = id) = sections.find? fun x => x.id = id := by
  induction removes with
  | nil => rfl
  | memory isMemory _ ih =>
      rw [List.find?_cons_of_neg (by simpa [isMemory] using notMemory.symm), ih]
  | exports isExports parsed pruned _ ih =>
      rw [List.find?_cons_of_neg (by simpa [isExports] using notExports.symm)]
      rcases pruned.left parsed with ⟨rfl, -⟩ | ⟨y, rfl, same, -, -⟩
      · exact ih
      · rw [List.singleton_append,
          List.find?_cons_of_neg (by simpa [same, isExports] using notExports.symm), ih]
  | other _ _ _ ih =>
      rw [List.find?_cons, List.find?_cons, ih]

namespace Module

variable {m n : Module}

theorem scan_eq_of_section?_eq (same : m.section? .code = n.section? .code) : m.scan = n.scan := by
  unfold scan bodies
  rw [same]

theorem requireClean_ok_iff {parallel : Bool} : m.requireClean parallel = .ok () ↔ m.scan = .ok none := by
  unfold requireClean
  rw [scanParallel_eq_scan, ite_self]
  split <;> simp [*]

theorem removeMemory_of_absent (absent : ∀ x ∈ m.sections, x.id ≠ .memories) :
    m.removeMemory = .error .noMemory := by
  have none : m.section? .memories = none :=
    List.find?_eq_none.mpr fun x member => by simpa using absent x member
  unfold removeMemory
  rw [none]
  rfl

end Module

theorem strip_removal_error {parallel : Bool} {file : Bytes} {m : Module} {error : RemovalError}
    (decoded : Module.decode file = .ok m) (clean : m.scan = .ok none)
    (refused : m.removeMemory = .error error) : strip parallel file = .error (.removal error) := by
  have required : m.requireClean parallel = .ok () := Module.requireClean_ok_iff.mpr clean
  simp only [strip, decoded, required, refused, Except.mapError, Bind.bind, Except.bind]

/-- What is left of a clean module is clean, and has no memory that could be removed. -/
theorem Module.removeMemory_again {m : Module} {removal : Removal}
    (ordered : (ranks m.sections).Pairwise (· < ·)) (clean : m.scan = .ok none)
    (run : m.removeMemory = .ok removal) :
    removal.remaining.scan = .ok none ∧ removal.remaining.removeMemory = .error .noMemory := by
  obtain ⟨entries, removes, -, -⟩ := removeMemory_removes ordered run
  have sameCode : removal.remaining.section? .code = m.section? .code :=
    removes.find?_eq (by decide) (by decide)
  exact ⟨(scan_eq_of_section?_eq sameCode).trans clean, removeMemory_of_absent removes.id_ne⟩

/-- A stripped file cannot be stripped again, whichever way its functions are inspected: it is read, found
clean, and has no memory section. -/
theorem strip_stripped {parallel again : Bool} {file : Bytes} {stripped : Stripped}
    (success : strip parallel file = .ok stripped) :
    strip again stripped.bytes = .error (.removal .noMemory) ∧
      ∃ m, Module.decode stripped.bytes = .ok m ∧ m.scan = .ok none ∧ m.scanParallel = .ok none ∧
        ∀ x ∈ m.sections, x.id ≠ .memories := by
  obtain ⟨m, removal, decoded, clean, run, rfl⟩ := strip_ok success
  have spelled := Module.Spells.of_decode decoded
  obtain ⟨entries, removes, -, -⟩ := Module.removeMemory_removes spelled.ordered run
  have readAgain : Module.decode removal.remaining.encode = .ok removal.remaining :=
    (spelled.removed removes).decode
  have sameCode : removal.remaining.section? .code = m.section? .code :=
    removes.find?_eq (by decide) (by decide)
  have cleanAgain : removal.remaining.scan = .ok none :=
    (Module.scan_eq_of_section?_eq sameCode).trans (Module.requireClean_ok_iff.mp clean)
  have refused : removal.remaining.removeMemory = .error .noMemory :=
    Module.removeMemory_of_absent removes.id_ne
  refine ⟨strip_removal_error readAgain cleanAgain refused, removal.remaining, readAgain, cleanAgain, ?_,
    removes.id_ne⟩
  rw [Module.scanParallel_eq_scan, cleanAgain]

/-- A padded size, an export section that is dropped, and code that opens a block. -/
theorem strip_stripped_block :
    strip true
        (header ++ [5, 0x83, 0, 1, 0, 1, 7, 5, 1, 1, 0x6d, 2, 0, 10, 7, 1, 5, 0, 2, 0x40, 0x0b, 0x0b]) =
      .ok ⟨header ++ [10, 7, 1, 5, 0, 2, 0x40, 0x0b, 0x0b], [⟨"m", .memory, 0⟩], 30⟩ ∧
      strip false (header ++ [10, 7, 1, 5, 0, 2, 0x40, 0x0b, 0x0b]) = .error (.removal .noMemory) := by
  have run : strip true
      (header ++ [5, 0x83, 0, 1, 0, 1, 7, 5, 1, 1, 0x6d, 2, 0, 10, 7, 1, 5, 0, 2, 0x40, 0x0b, 0x0b]) =
      .ok ⟨header ++ [10, 7, 1, 5, 0, 2, 0x40, 0x0b, 0x0b], [⟨"m", .memory, 0⟩], 30⟩ := by
    cbv
  exact ⟨run, (strip_stripped run).1⟩

end Memoryless
