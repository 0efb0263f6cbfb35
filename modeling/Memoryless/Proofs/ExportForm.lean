import Memoryless.Export
import Memoryless.Proofs.Forms

/-!
# The form of an export section

`Export.SpellsAll` is the grammar of the payload of an export section: the number of entries, the
entries, and nothing else. `Export.parse_ok_iff` says that exactly these payloads are read.

What is written is such a payload (`SpellsAll.writeAll`), and writing some of the entries that were read
never takes more bytes than reading them all did (`SpellsAll.length_writeAll_le`), nor more than the others
leave of them (`SpellsAll.length_writeAll_add_le`).
-/

namespace Memoryless.Export

/-! ## Entries -/

/-- A form of an entry: the name, the byte of its kind, and the index. -/
def Spells : Form Export := fun s e =>
  ∃ name index, Name.Spells name e.name ∧ Leb128.Spells 32 index e.index.toNat ∧
    s = name ++ e.kind.byte :: index

theorem kindOfByte_ok_iff {b : UInt8} {kind : ExportKind} :
    kindOfByte b = .ok kind ↔ b = kind.byte := by
  unfold kindOfByte
  refine ⟨fun run => ?_, fun same => ?_⟩
  · split at run
    · rename_i found known
      cases run
      exact (ExportKind.byte_of_ofByte? known).symm
    · cases run
  · rw [same, ExportKind.ofByte?_byte]

theorem read_reads : read.Reads Spells := by
  have parts := Name.read_reads.bind fun name =>
    (Reader.Reads.byte.refine .first kindOfByte).bind fun kind =>
      Leb128.u32_reads.bind fun index => Reader.Reads.pure (Export.mk name kind index)
  apply parts.congr
  intro s e
  refine ⟨fun spelled => ?_, fun spelled => ?_⟩
  · rcases spelled with ⟨nameForm, name, _, rfl, named, kindForm, kind, _, rfl, known, last⟩
    rcases known with ⟨b, rfl, known⟩
    rcases last with ⟨indexForm, index, _, rfl, indexed, rfl, rfl⟩
    rw [kindOfByte_ok_iff.mp known, List.append_nil]
    exact ⟨nameForm, indexForm, named, indexed, rfl⟩
  · rcases spelled with ⟨nameForm, indexForm, named, indexed, rfl⟩
    exact ⟨nameForm, e.name, _, rfl, named, [e.kind.byte], e.kind, _, rfl,
      ⟨_, rfl, kindOfByte_ok_iff.mpr rfl⟩, indexForm, e.index, [], (List.append_nil _).symm, indexed,
      rfl, rfl⟩

theorem Spells.name_le {s : Bytes} {e : Export} (spelled : Spells s e) :
    (Name.utf8 e.name).length ≤ Name.limit := by
  rcases spelled with ⟨name, index, ⟨size, -, -, small⟩, -, -⟩
  exact small

theorem Spells.write {e : Export} (small : (Name.utf8 e.name).length ≤ Name.limit) :
    Spells (write e) e := by
  have fits : (Name.utf8 e.name).length < 2 ^ 32 := Nat.lt_of_le_of_lt small (by decide)
  exact ⟨Name.write e.name, Leb128.ofNat e.index.toNat, ⟨_, rfl, .ofNat (by decide) fits, small⟩,
    .ofNat (by decide) e.index.toNat_lt, rfl⟩

/-- An entry is written in no more bytes than it was read from. -/
theorem Spells.length_write_le {s : Bytes} {e : Export} (spelled : Spells s e) :
    (Export.write e).length ≤ s.length := by
  rcases spelled with ⟨name, index, ⟨size, rfl, sized, -⟩, indexed, rfl⟩
  have shorterSize := sized.groups.length_ofNat_le
  have shorterIndex := indexed.groups.length_ofNat_le
  unfold Export.write Name.write
  simp only [List.length_append, List.length_cons]
  omega

/-! ## Payloads -/

/-- A form of the payload: the number of entries, and the entries. -/
def SpellsAll : Form (List Export) := fun payload entries =>
  ∃ count rows, Leb128.Spells 32 count entries.length ∧ Form.Row Spells rows entries ∧
    payload = count ++ rows

theorem parse_ok_iff {payload : Bytes} {entries : List Export} :
    parse payload = .ok entries ↔ SpellsAll payload entries := by
  have rows_iff : ∀ rows : Bytes, Reader.times entries.length read rows = .ok (entries, []) ↔
      Form.Row Spells rows entries := by
    intro rows
    rw [(read_reads.times entries.length).whole, and_iff_right rfl]
  unfold parse readAll
  refine ⟨fun run => ?_, fun spelled => ?_⟩
  · obtain ⟨⟨found, left⟩, whole, same⟩ := map_ok_iff.mp run
    cases same
    obtain ⟨-, count, rows, here, repeated, split⟩ := (Leb128.counted_ok_iff .afterEntries).mp whole
    exact ⟨count, rows, here, (rows_iff rows).mp repeated, split⟩
  · rcases spelled with ⟨count, rows, here, row, split⟩
    have whole := (Leb128.counted_ok_iff .afterEntries).mpr
      ⟨rfl, count, rows, here, (rows_iff rows).mpr row, split⟩
    rw [whole]
    rfl

theorem SpellsAll.length_lt {payload : Bytes} {entries : List Export}
    (spelled : SpellsAll payload entries) : entries.length < 2 ^ 32 := by
  rcases spelled with ⟨count, rows, here, -, -⟩
  exact here.fits

theorem SpellsAll.name_le {payload : Bytes} {entries : List Export}
    (spelled : SpellsAll payload entries) :
    ∀ e ∈ entries, (Name.utf8 e.name).length ≤ Name.limit := by
  intro e member
  rcases spelled with ⟨count, rows, -, row, -⟩
  obtain ⟨s, here⟩ := row.of_mem member
  exact here.name_le

/-- What is written is read as the entries that were written. -/
theorem SpellsAll.writeAll {entries : List Export} (few : entries.length < 2 ^ 32)
    (small : ∀ e ∈ entries, (Name.utf8 e.name).length ≤ Name.limit) :
    SpellsAll (writeAll entries) entries := by
  have counted : Leb128.Spells 32 (Leb128.ofNat entries.length) entries.length :=
    .ofNat (by decide) few
  refine ⟨_, _, counted, Form.Row.flatMap fun e member => Spells.write (small e member), ?_⟩
  rw [Export.writeAll, counted.toNat_toUInt32]

theorem length_flatMap_write_le {rows : Bytes} {entries : List Export}
    (row : Form.Row Spells rows entries) : (entries.flatMap write).length ≤ rows.length := by
  induction row with
  | nil => exact Nat.le_refl 0
  | cons here _ ih =>
      have shorter := here.length_write_le
      rw [List.flatMap_cons, List.length_append, List.length_append]
      omega

/-- Some of the entries are written in the bytes that the others leave. -/
theorem SpellsAll.length_writeAll_add_le {payload : Bytes} {entries kept others : List Export}
    (spelled : SpellsAll payload entries) (parts : (kept ++ others).Perm entries) :
    (Export.writeAll kept).length + (others.flatMap write).length ≤ payload.length := by
  have fewer : kept.length ≤ entries.length := by
    rw [← parts.length_eq, List.length_append]
    exact Nat.le_add_right ..
  have few : kept.length < 2 ^ 32 := Nat.lt_of_le_of_lt fewer spelled.length_lt
  rcases spelled with ⟨count, rows, here, row, rfl⟩
  have shorterRows := length_flatMap_write_le row
  rw [← (parts.flatMap_right write).length_eq, List.flatMap_append, List.length_append] at shorterRows
  have shorterCount : (Leb128.ofNat kept.length).length ≤ count.length :=
    Nat.le_trans (Leb128.length_ofNat_mono fewer) here.groups.length_ofNat_le
  have written : Leb128.Spells 32 (Leb128.ofNat kept.length) kept.length := .ofNat (by decide) few
  rw [Export.writeAll, written.toNat_toUInt32, List.length_append, List.length_append]
  omega

/-- Some of the entries take no more bytes than all of them did. -/
theorem SpellsAll.length_writeAll_le {payload : Bytes} {entries kept : List Export}
    (spelled : SpellsAll payload entries) (sub : kept.Sublist entries) :
    (Export.writeAll kept).length ≤ payload.length := by
  obtain ⟨others, parts⟩ := sub.exists_perm_append
  exact Nat.le_trans (Nat.le_add_right ..) (spelled.length_writeAll_add_le parts.symm)

end Memoryless.Export
