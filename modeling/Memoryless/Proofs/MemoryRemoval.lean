import Memoryless.Stripping
import Memoryless.Proofs.BinaryForm
import Memoryless.Proofs.ExportForm

/-!
# What the removal of the memory leaves

`Removal.Pruned` says what becomes of the export section, given its entries, and `Removal.Removes` what
becomes of a list of sections in which neither the memory section nor the export section repeats. The
two facts on which the rest stands are `Removes.ids_sublist`, so ranks stay in order, and `Pruned.left`,
so a pruned export section is read as the entries that were kept and is no longer than before.

With them a stripped file is read again: `strip_ok` takes a run apart into its steps, and
`strip_removes_memory` compares the module that was read with the one that the result is read as.
-/

namespace Memoryless

namespace Removal

variable {entries : List Export}

/-! ## The export section -/

/-- What becomes of an export section with the given entries: it stays as it is, goes, or is written anew
with the entries that export no memory. -/
inductive Pruned (entries : List Export) (x : Section) : List Section → Prop
  | kept : (∀ e ∈ entries, e.kind ≠ .memory) → Pruned entries x [x]
  | dropped : entries ≠ [] → (∀ e ∈ entries, e.kind = .memory) → Pruned entries x []
  | rewritten :
    (∃ e ∈ entries, e.kind = .memory) → (∃ e ∈ entries, e.kind ≠ .memory) →
    Pruned entries x
      [{ x with payload := Export.writeAll (entries.filter fun e => e.kind ≠ .memory) }]

/-- The entries come apart into those of a memory and the others, each in their order. -/
theorem partition_isMemory :
    entries.partition Export.isMemory =
      (entries.filter fun e => e.kind = .memory, entries.filter fun e => e.kind ≠ .memory) := by
  rw [List.partition_eq_filter_filter]
  congr 1
  apply List.filter_congr
  intro e _
  simp [Export.isMemory]

theorem prune_ok {x : Section} {out : List Section} {removed : List Export}
    (run : prune x = .ok (out, removed)) :
    ∃ entries, Export.parse x.payload = .ok entries ∧ Pruned entries x out ∧
      removed = entries.filter fun e => e.kind = .memory := by
  obtain ⟨entries, parsed, made⟩ := map_ok_iff.mp run
  refine ⟨entries, ok_of_mapError parsed, ?_⟩
  rw [partition_isMemory] at made
  cases memories : entries.filter fun e => e.kind = .memory with
  | nil =>
      rw [memories] at made
      cases made
      refine ⟨.kept fun e member isMemory => ?_, rfl⟩
      exact List.filter_eq_nil_iff.mp memories e member (decide_eq_true isMemory)
  | cons memory more =>
      have found : memory ∈ entries ∧ decide (memory.kind = .memory) = true :=
        List.mem_filter.mp (memories ▸ List.mem_cons_self)
      cases others : entries.filter fun e => e.kind ≠ .memory with
      | nil =>
          rw [memories, others] at made
          cases made
          refine ⟨.dropped (List.ne_nil_of_mem found.1) fun e member => ?_, rfl⟩
          simpa using List.filter_eq_nil_iff.mp others e member
      | cons other rest =>
          have left : other ∈ entries ∧ decide (other.kind ≠ .memory) = true :=
            List.mem_filter.mp (others ▸ List.mem_cons_self)
          rw [memories, others] at made
          cases made
          rw [← others]
          exact ⟨.rewritten ⟨memory, found.1, of_decide_eq_true found.2⟩
            ⟨other, left.1, of_decide_eq_true left.2⟩, rfl⟩

theorem Pruned.unique {x : Section} {out other : List Section} (one : Pruned entries x out)
    (two : Pruned entries x other) : out = other := by
  cases one with
  | kept none =>
      cases two with
      | kept => rfl
      | dropped some all =>
          obtain ⟨e, member⟩ := List.exists_mem_of_ne_nil _ some
          exact absurd (all e member) (none e member)
      | rewritten memory _ =>
          obtain ⟨e, member, isMemory⟩ := memory
          exact absurd isMemory (none e member)
  | dropped some all =>
      cases two with
      | kept none =>
          obtain ⟨e, member⟩ := List.exists_mem_of_ne_nil _ some
          exact absurd (all e member) (none e member)
      | dropped => rfl
      | rewritten _ other =>
          obtain ⟨e, member, notMemory⟩ := other
          exact absurd (all e member) notMemory
  | rewritten memory other =>
      cases two with
      | kept none =>
          obtain ⟨e, member, isMemory⟩ := memory
          exact absurd isMemory (none e member)
      | dropped _ all =>
          obtain ⟨e, member, notMemory⟩ := other
          exact absurd (all e member) notMemory
      | rewritten => rfl

/-- What is left of an export section: nothing, and then no entry was kept, or a section that is read as
the entries that were kept and is no longer than before. -/
theorem Pruned.left {x : Section} {out : List Section} (pruned : Pruned entries x out)
    (parsed : Export.parse x.payload = .ok entries) :
    (out = [] ∧ (entries.filter fun e => e.kind ≠ .memory) = []) ∨
      ∃ y, out = [y] ∧ y.id = x.id ∧ y.payload.length ≤ x.payload.length ∧
        Export.parse y.payload = .ok (entries.filter fun e => e.kind ≠ .memory) := by
  have spelled := Export.parse_ok_iff.mp parsed
  cases pruned with
  | kept none =>
      have all : (entries.filter fun e => e.kind ≠ .memory) = entries :=
        List.filter_eq_self.mpr fun e member => decide_eq_true (none e member)
      rw [all]
      exact Or.inr ⟨x, rfl, rfl, Nat.le_refl _, parsed⟩
  | dropped _ all =>
      refine Or.inl ⟨rfl, List.filter_eq_nil_iff.mpr fun e member => ?_⟩
      rw [decide_eq_true_iff]
      exact fun other => other (all e member)
  | rewritten _ _ =>
      have sub : (entries.filter fun e => e.kind ≠ .memory).Sublist entries := List.filter_sublist
      have few := Nat.lt_of_le_of_lt sub.length_le spelled.length_lt
      have again := Export.SpellsAll.writeAll few fun e member =>
        spelled.name_le e (sub.subset member)
      exact Or.inr ⟨_, rfl, rfl, spelled.length_writeAll_le sub, Export.parse_ok_iff.mpr again⟩

/-! ## Lists of sections -/

/-- What becomes of sections when every memory section goes and every export section has the given
entries. -/
inductive Removes (entries : List Export) : List Section → List Section → Prop
  | nil : Removes entries [] []
  | memory {x : Section} {sections remaining : List Section} :
    x.id = .memories → Removes entries sections remaining →
    Removes entries (x :: sections) remaining
  | exports {x : Section} {sections remaining out : List Section} :
    x.id = .exports → Export.parse x.payload = .ok entries → Pruned entries x out →
    Removes entries sections remaining → Removes entries (x :: sections) (out ++ remaining)
  | other {x : Section} {sections remaining : List Section} :
    x.id ≠ .memories → x.id ≠ .exports → Removes entries sections remaining →
    Removes entries (x :: sections) (x :: remaining)

theorem Removes.unchanged {sections : List Section}
    (plain : ∀ x ∈ sections, x.id ≠ .memories ∧ x.id ≠ .exports) :
    Removes entries sections sections := by
  induction sections with
  | nil => exact .nil
  | cons x sections ih =>
      obtain ⟨here, later⟩ := List.forall_mem_cons.mp plain
      exact .other here.1 here.2 (ih later)

theorem Removes.append {first second remaining others : List Section}
    (left : Removes entries first remaining) (right : Removes entries second others) :
    Removes entries (first ++ second) (remaining ++ others) := by
  induction left with
  | nil => exact right
  | memory isMemory _ ih => exact .memory isMemory ih
  | exports isExports parsed pruned _ ih =>
      rw [List.append_assoc]
      exact .exports isExports parsed pruned ih
  | other notMemory notExports _ ih => exact .other notMemory notExports ih

/-- A memory section may stand anywhere among the sections. -/
theorem Removes.insert {before after remaining : List Section} {x : Section}
    (isMemory : x.id = .memories) (removes : Removes entries (before ++ after) remaining) :
    Removes entries (before ++ x :: after) remaining := by
  induction before generalizing remaining with
  | nil => exact .memory isMemory removes
  | cons y before ih =>
      cases removes with
      | memory also removes => exact .memory also (ih removes)
      | exports isExports parsed pruned removes => exact .exports isExports parsed pruned (ih removes)
      | other notMemory notExports removes => exact .other notMemory notExports (ih removes)

theorem Removes.id_ne {sections remaining : List Section}
    (removes : Removes entries sections remaining) : ∀ y ∈ remaining, y.id ≠ .memories := by
  induction removes with
  | nil => exact fun y member => nomatch member
  | memory _ _ ih => exact ih
  | exports isExports parsed pruned _ ih =>
      intro y member
      rcases List.mem_append.mp member with here | later
      · rcases pruned.left parsed with ⟨rfl, -⟩ | ⟨z, rfl, same, -, -⟩
        · cases here
        · rw [List.mem_singleton.mp here, same, isExports]
          decide
      · exact ih y later
  | other notMemory _ _ ih => exact List.forall_mem_cons.mpr ⟨notMemory, ih⟩

/-- Sections are left out, and none is added or moved. -/
theorem Removes.ids_sublist {sections remaining : List Section}
    (removes : Removes entries sections remaining) :
    (remaining.map Section.id).Sublist (sections.map Section.id) := by
  induction removes with
  | nil => exact .slnil
  | memory _ _ ih => exact ih.cons _
  | exports _ parsed pruned _ ih =>
      rcases pruned.left parsed with ⟨rfl, -⟩ | ⟨z, rfl, same, -, -⟩
      · exact ih.cons _
      · rw [List.singleton_append, List.map_cons, List.map_cons, same]
        exact ih.cons_cons _
  | other _ _ _ ih => exact ih.cons_cons _

theorem opens_of_parse {payload : Bytes} (parsed : Export.parse payload = .ok entries) :
    Section.Opens ⟨.exports, payload⟩ := by
  obtain ⟨count, rows, here, -, split⟩ := Export.parse_ok_iff.mp parsed
  exact ⟨count, entries.length, rows, here, split⟩

/-- What is left can be written and read again. -/
theorem Removes.opens {sections remaining : List Section}
    (removes : Removes entries sections remaining)
    (readable : ∀ x ∈ sections, x.Opens ∧ x.payload.length < 2 ^ 32) :
    ∀ y ∈ remaining, y.Opens ∧ y.payload.length < 2 ^ 32 := by
  induction removes with
  | nil => exact readable
  | memory _ _ ih => exact ih (List.forall_mem_cons.mp readable).2
  | @exports x _ _ _ isExports parsed pruned _ ih =>
      obtain ⟨here, later⟩ := List.forall_mem_cons.mp readable
      rcases pruned.left parsed with ⟨rfl, -⟩ | ⟨z, rfl, same, shorter, again⟩
      · exact ih later
      · have opened : z.Opens := by
          have whole := opens_of_parse again
          rw [← isExports, ← same] at whole
          exact whole
        exact List.forall_mem_cons.mpr ⟨⟨opened, Nat.lt_of_le_of_lt shorter here.2⟩, ih later⟩
  | other _ _ _ ih =>
      obtain ⟨here, later⟩ := List.forall_mem_cons.mp readable
      exact List.forall_mem_cons.mpr ⟨here, ih later⟩

end Removal

namespace Module

/-- The module exports these entries: those of its one export section, or none if it has no such
section. -/
def Exports (m : Module) (entries : List Export) : Prop :=
  match m.sections.filter fun x => x.id = .exports with
  | [] => entries = []
  | [x] => Export.parse x.payload = .ok entries
  | _ => False

variable {entries : List Export} {x : Section}

theorem exports_none {sections : List Section} (none : ∀ y ∈ sections, y.id ≠ .exports) :
    Exports ⟨sections⟩ [] := by
  have empty : (sections.filter fun y => y.id = .exports) = [] := by
    rw [List.filter_eq_nil_iff]
    intro y member
    rw [decide_eq_true_iff]
    exact none y member
  unfold Exports
  rw [empty]

/-- Other sections do not count. -/
theorem exports_insert_iff (before after : List Section) (notExports : x.id ≠ .exports) :
    Exports ⟨before ++ x :: after⟩ entries ↔ Exports ⟨before ++ after⟩ entries := by
  unfold Exports
  rw [List.filter_append, List.filter_cons_of_neg (by simpa using notExports), ← List.filter_append]

theorem exports_split_iff (before after : List Section) (isExports : x.id = .exports) :
    Exports ⟨before ++ x :: after⟩ entries ↔
      Export.parse x.payload = .ok entries ∧ ∀ y ∈ before ++ after, y.id ≠ .exports := by
  have alone : (∀ y ∈ before ++ after, y.id ≠ .exports) ↔
      (before.filter fun y => y.id = .exports) = [] ∧
        (after.filter fun y => y.id = .exports) = [] := by
    rw [← List.append_eq_nil_iff, ← List.filter_append, List.filter_eq_nil_iff]
    simp only [decide_eq_true_eq, ne_eq]
  unfold Exports
  rw [alone, List.filter_append, List.filter_cons_of_pos (by simpa using isExports)]
  cases before.filter fun y => y.id = .exports with
  | nil =>
      cases after.filter fun y => y.id = .exports with
      | nil => simp
      | cons => simp
  | cons y more => cases more <;> simp

theorem Exports.removed {sections remaining : List Section}
    (removes : Removal.Removes entries sections remaining) (exported : Exports ⟨sections⟩ entries) :
    Exports ⟨remaining⟩ (entries.filter fun e => e.kind ≠ .memory) := by
  induction removes with
  | nil =>
      have empty : entries = [] := exported
      rw [empty]
      exact exports_none fun y member => nomatch member
  | @memory x sections _ isMemory _ ih =>
      have notExports : x.id ≠ .exports := by rw [isMemory]; decide
      exact ih ((exports_insert_iff [] _ notExports).mp exported)
  | @exports x sections remaining out isExports parsed pruned removes _ =>
      have alone := ((exports_split_iff [] _ isExports).mp exported).2
      have none : ∀ y ∈ remaining, y.id ≠ .exports := by
        intro y member same
        have first := removes.ids_sublist.subset (List.mem_map_of_mem member)
        obtain ⟨z, among, eq⟩ := List.mem_map.mp first
        exact alone z among (eq.trans same)
      rcases pruned.left parsed with ⟨rfl, empty⟩ | ⟨z, rfl, same, -, again⟩
      · rw [empty]
        exact exports_none none
      · exact (exports_split_iff [] _ (same.trans isExports)).mpr ⟨again, none⟩
  | other notMemory notExports _ ih =>
      have later := ih ((exports_insert_iff [] _ notExports).mp exported)
      exact (exports_insert_iff [] _ notExports).mpr later

/-! ## Runs -/

theorem span_exports (sections : List Section) :
    (∀ y ∈ sections, y.id ≠ .exports) ∧
        (sections.span fun y => y.id ≠ .exports) = (sections, []) ∨
      ∃ before x after, sections = before ++ x :: after ∧ (∀ y ∈ before, y.id ≠ .exports) ∧
        x.id = .exports ∧ (sections.span fun y => y.id ≠ .exports) = (before, x :: after) := by
  let p : Section → Bool := fun y => y.id ≠ .exports
  have whole : sections.takeWhile p ++ sections.dropWhile p = sections :=
    List.takeWhile_append_dropWhile
  have parts : sections.span p = (sections.takeWhile p, sections.dropWhile p) :=
    List.span_eq_takeWhile_dropWhile p sections
  cases found : sections.dropWhile p with
  | nil =>
      have all := List.dropWhile_eq_nil_iff.mp found
      rw [found, List.append_nil] at whole
      rw [found, whole] at parts
      exact Or.inl ⟨fun y member => of_decide_eq_true (all y member), parts⟩
  | cons x after =>
      have first := List.head?_dropWhile_not p sections
      rw [found] at whole parts first
      refine Or.inr ⟨_, x, after, whole.symm, fun y member => ?_, by simpa [p] using first, parts⟩
      exact of_decide_eq_true (List.mem_takeWhile_imp (p := p) member)

theorem pruneFirst_ok {sections remaining : List Section} {removed : List Export}
    (run : Removal.pruneFirst sections = .ok (remaining, removed)) :
    ((∀ y ∈ sections, y.id ≠ .exports) ∧ remaining = sections ∧ removed = []) ∨
      ∃ before x after out, sections = before ++ x :: after ∧ (∀ y ∈ before, y.id ≠ .exports) ∧
        x.id = .exports ∧ Removal.prune x = .ok (out, removed) ∧ remaining = before ++ out ++ after := by
  unfold Removal.pruneFirst at run
  rcases span_exports sections with ⟨none, parts⟩ | ⟨before, x, after, split, early, isExports, parts⟩
  · rw [parts] at run
    cases run
    exact Or.inl ⟨none, rfl, rfl⟩
  · rw [parts] at run
    obtain ⟨⟨out, others⟩, pruned, made⟩ := ok_of_bind run
    cases made
    exact Or.inr ⟨before, x, after, out, split, early, isExports, pruned, rfl⟩

theorem removeMemory_ok {m : Module} {removal : Removal} (run : m.removeMemory = .ok removal) :
    (∃ x, m.section? .memories = some x) ∧ Removal.dataSegments m = .ok 0 ∧
      Removal.pruneFirst (m.sections.eraseP fun x => x.id = .memories) =
        .ok (removal.remaining.sections, removal.removedExports) := by
  unfold removeMemory at run
  cases memory : m.section? .memories with
  | none => rw [memory] at run; cases run
  | some x =>
      rw [memory] at run
      obtain ⟨count, counted, later⟩ := ok_of_bind run
      by_cases zero : count = 0
      · rw [if_neg (not_not.mpr zero)] at later
        obtain ⟨⟨sections, removed⟩, pruned, made⟩ := ok_of_bind later
        cases made
        exact ⟨⟨x, rfl⟩, zero ▸ counted, pruned⟩
      · rw [if_pos zero] at later
        cases later

theorem pruneFirst_removes {sections remaining : List Section} {removed : List Export}
    (ordered : (ranks sections).Pairwise (· < ·)) (noMemory : ∀ y ∈ sections, y.id ≠ .memories)
    (run : Removal.pruneFirst sections = .ok (remaining, removed)) :
    ∃ entries, Removal.Removes entries sections remaining ∧ Exports ⟨sections⟩ entries ∧
      removed = entries.filter fun e => e.kind = .memory := by
  rcases pruneFirst_ok run with
    ⟨none, rfl, rfl⟩ | ⟨before, x, after, out, rfl, -, isExports, exported, rfl⟩
  · exact ⟨[], .unchanged fun y member => ⟨noMemory y member, none y member⟩, exports_none none, rfl⟩
  · obtain ⟨entries, parsed, pruned, rfl⟩ := Removal.prune_ok exported
    -- The order of the ranks rules out another export section, on either side.
    have noExports : ∀ y ∈ before ++ after, y.id ≠ .exports := by
      rw [← isExports]
      exact id_ne_of_ordered ordered rfl (by rw [isExports]; rfl)
    have early : Removal.Removes entries before before := .unchanged fun y member =>
      ⟨noMemory y (List.mem_append_left _ member), noExports y (List.mem_append_left _ member)⟩
    have late : Removal.Removes entries after after := .unchanged fun y member =>
      ⟨noMemory y (List.mem_append_right _ (List.mem_cons_of_mem x member)),
        noExports y (List.mem_append_right _ member)⟩
    refine ⟨entries, ?_, (exports_split_iff before after isExports).mpr ⟨parsed, noExports⟩, rfl⟩
    rw [List.append_assoc]
    exact early.append (.exports isExports parsed pruned late)

/-- A removal from a module whose ranks increase, so that no section with a rank repeats. -/
theorem removeMemory_removes {m : Module} {removal : Removal}
    (ordered : (ranks m.sections).Pairwise (· < ·)) (run : m.removeMemory = .ok removal) :
    ∃ entries, Removal.Removes entries m.sections removal.remaining.sections ∧
      m.Exports entries ∧ removal.removedExports = entries.filter fun e => e.kind = .memory := by
  obtain ⟨⟨memory, found⟩, -, pruned⟩ := removeMemory_ok run
  obtain ⟨x, before, after, -, here, split, erased⟩ :=
    List.exists_of_eraseP (List.mem_of_find?_eq_some found) (List.find?_some found)
  have isMemory : x.id = .memories := of_decide_eq_true here
  have whole : m = ⟨before ++ x :: after⟩ := congrArg Module.mk split
  have noMemory : ∀ y ∈ before ++ after, y.id ≠ .memories := by
    rw [← isMemory]
    exact id_ne_of_ordered ordered split (by rw [isMemory]; rfl)
  have stillOrdered : (ranks (before ++ after)).Pairwise (· < ·) := by
    rw [← erased]
    exact ordered.sublist (ranks_sublist (List.eraseP_sublist.map Section.id))
  rw [erased] at pruned
  obtain ⟨entries, removes, exported, removed⟩ := pruneFirst_removes stillOrdered noMemory pruned
  rw [whole]
  exact ⟨entries, removes.insert isMemory,
    (exports_insert_iff before after (by rw [isMemory]; decide)).mpr exported, removed⟩

theorem Spells.removed {file : Bytes} {m : Module} {entries : List Export} {remaining : List Section}
    (spelled : Spells file m) (removes : Removal.Removes entries m.sections remaining) :
    Spells (Module.encode ⟨remaining⟩) ⟨remaining⟩ := by
  have readable := removes.opens fun x member =>
    ⟨spelled.opened x member, spelled.payload_lt x member⟩
  have ordered : (ranks remaining).Pairwise (· < ·) :=
    spelled.ordered.sublist (ranks_sublist removes.ids_sublist)
  exact Spells.encode ordered (fun y member => (readable y member).1)
    fun y member => (readable y member).2

end Module

/-! ## Stripped files -/

theorem strip_ok {parallel : Bool} {file : Bytes} {stripped : Stripped}
    (run : strip parallel file = .ok stripped) :
    ∃ m removal, Module.decode file = .ok m ∧ m.requireClean parallel = .ok () ∧
      m.removeMemory = .ok removal ∧
      stripped = ⟨removal.remaining.encode, removal.removedExports, file.length⟩ := by
  obtain ⟨m, decoded, later⟩ := ok_of_bind run
  obtain ⟨_, clean, last⟩ := ok_of_bind later
  obtain ⟨removal, removed, made⟩ := ok_of_bind last
  cases made
  exact ⟨m, removal, ok_of_mapError decoded, clean, ok_of_mapError removed, rfl⟩

/-- A stripped file is read as the module of the input without its memory: the memory section is gone,
the export section has lost its memory exports, and all else is as it was. The exports that were lost
are reported. -/
theorem strip_removes_memory {parallel : Bool} {file : Bytes} {stripped : Stripped}
    (success : strip parallel file = .ok stripped) :
    ∃ m remaining entries, Module.decode file = .ok m ∧
      Module.decode stripped.bytes = .ok remaining ∧
      (∃ x ∈ m.sections, x.id = .memories) ∧ (∀ y ∈ remaining.sections, y.id ≠ .memories) ∧
      Removal.Removes entries m.sections remaining.sections ∧
      m.Exports entries ∧ remaining.Exports (entries.filter fun e => e.kind ≠ .memory) ∧
      stripped.removedExports = entries.filter fun e => e.kind = .memory := by
  obtain ⟨m, removal, decoded, -, run, rfl⟩ := strip_ok success
  have spelled := Module.Spells.of_decode decoded
  obtain ⟨⟨memory, found⟩, -, -⟩ := Module.removeMemory_ok run
  obtain ⟨entries, removes, exported, removed⟩ := Module.removeMemory_removes spelled.ordered run
  exact ⟨m, removal.remaining, entries, decoded, (spelled.removed removes).decode,
    ⟨memory, List.mem_of_find?_eq_some found, Module.id_of_section? found⟩, removes.id_ne, removes,
    exported, exported.removed removes, removed⟩

/-- Sizes and an index that are padded, a custom section in between, and a memory export before another
one. -/
theorem strip_removes_memory_padded :
    strip true
        (header ++ [3, 2, 1, 0, 5, 3, 1, 0, 1, 0, 2, 1, 0x61, 7, 0x8a, 0, 2, 1, 0x6d, 2, 0, 1, 0x66, 0,
          0x80, 0, 10, 4, 1, 2, 0, 0x0b]) =
      .ok ⟨header ++ [3, 2, 1, 0, 0, 2, 1, 0x61, 7, 5, 1, 1, 0x66, 0, 0, 10, 4, 1, 2, 0, 0x0b],
        [⟨"m", .memory, 0⟩], 40⟩ ∧
      ∃ (m remaining : Module) (entries : List Export),
        Removal.Removes entries m.sections remaining.sections ∧ m.Exports entries ∧
        remaining.Exports (entries.filter fun e => e.kind ≠ .memory) ∧
        [⟨"m", .memory, 0⟩] = entries.filter fun e => e.kind = .memory := by
  have run : strip true
      (header ++ [3, 2, 1, 0, 5, 3, 1, 0, 1, 0, 2, 1, 0x61, 7, 0x8a, 0, 2, 1, 0x6d, 2, 0, 1, 0x66, 0,
        0x80, 0, 10, 4, 1, 2, 0, 0x0b]) =
      .ok ⟨header ++ [3, 2, 1, 0, 0, 2, 1, 0x61, 7, 5, 1, 1, 0x66, 0, 0, 10, 4, 1, 2, 0, 0x0b],
        [⟨"m", .memory, 0⟩], 40⟩ := by
    cbv
  obtain ⟨m, remaining, entries, -, -, -, -, removes, exported, left, removed⟩ :=
    strip_removes_memory run
  exact ⟨run, m, remaining, entries, removes, exported, left, removed⟩

end Memoryless
