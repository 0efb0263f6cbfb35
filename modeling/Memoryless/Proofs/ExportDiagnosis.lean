import Memoryless.Removal
import Memoryless.Proofs.ExportForm

/-!
# Why a payload is not an export section

`Export.SpellsAll` is the grammar of the payloads that are read; this module is about the others. Such a
payload has no number of entries, or one of the entries it counts cannot be read, or it goes on behind the
last one. `Export.Misread` says which of these it is and where that shows: in the second case not before
the entry, in the third on the first byte that is too many.

A list of entries is read one entry after the other, so that a failure is that of one entry, with those
before it read: `Reader.Reads.times_error`. `Removal.parseExports_exact` is what reading a payload amounts
to.
-/

namespace Memoryless

/-- Nothing in the form stands at the front. -/
def Form.Absent {α : Type} (form : Form α) (s : Bytes) : Prop :=
  ∀ front back a, s = front ++ back → ¬form front a

namespace Reader

variable {α : Type} {r : Reader α} {form : Form α} {s : Bytes} {fault : Fault}

/-- A reader fails only where it has nothing to take. -/
theorem Reads.absent_of_error (reads : r.Reads form) (run : r s = .error fault) : form.Absent s := by
  rintro front back a rfl here
  rw [reads.accepted here back] at run
  cases run

/-- Readings in a row fail with the first that fails. -/
theorem Reads.times_error (reads : r.Reads form) {n : Nat} (run : Reader.times n r s = .error fault) :
    ∃ rows before rest, s = rows ++ rest ∧ form.Row rows before ∧ before.length < n ∧
      r rest = .error fault := by
  induction n generalizing s with
  | zero => cases run
  | succ n ih =>
      rw [times_succ] at run
      rcases bind_error run with first | ⟨a, middle, first, later⟩
      · exact ⟨[], [], s, rfl, .nil, Nat.succ_pos n, first⟩
      · rcases bind_error later with failed | ⟨others, left, -, made⟩
        · obtain ⟨front, rfl, here⟩ := reads.taken first
          obtain ⟨rows, before, rest, rfl, row, fewer, last⟩ := ih failed
          refine ⟨front ++ rows, a :: before, rest, (List.append_assoc ..).symm, .cons here row, ?_, last⟩
          exact Nat.succ_lt_succ fewer
        · cases made

/-- Where nothing may follow, only what does follow is refused. -/
theorem finish_error {after : Reason} (run : finish after s = .error fault) :
    s ≠ [] ∧ fault = ⟨after, s⟩ := by
  cases s with
  | nil => cases run
  | cons b s =>
      cases run
      exact ⟨List.cons_ne_nil b s, rfl⟩

end Reader

namespace Export

/-- Why a payload is refused at an offset: how many entries there are cannot be read; or one of that many
entries cannot, those before it can, and the offset is not before it; or something follows the last
entry, and the offset is where it begins. -/
inductive Misread (payload : Bytes) (offset : Nat) : Reason → Prop
  | count {reason : Reason} :
    Form.Absent (Leb128.Spells 32) payload → Misread payload offset reason
  | entry {count rows rest : Bytes} {n : Nat} {before : List Export} {reason : Reason} :
    payload = count ++ (rows ++ rest) → Leb128.Spells 32 count n → Form.Row Spells rows before →
    before.length < n → Form.Absent Spells rest → (count ++ rows).length ≤ offset →
    Misread payload offset reason
  | afterEntries {count rows rest : Bytes} {entries : List Export} :
    payload = count ++ (rows ++ rest) → Leb128.Spells 32 count entries.length →
    Form.Row Spells rows entries → rest ≠ [] → (count ++ rows).length = offset →
    Misread payload offset .afterEntries

variable {payload : Bytes} {fault : Fault}

theorem Misread.of_parse (run : parse payload = .error fault) :
    Misread payload (Bytes.offset payload fault.rest) fault.reason := by
  have failed : readAll payload = .error fault := map_error_iff.mp run
  rcases Reader.bind_error failed with first | ⟨n, left, counted, later⟩
  · refine .count fun front back a split here => ?_
    exact Leb128.u32_reads.absent_of_error first front back a.toUInt32 split here.toUInt32
  · obtain ⟨count, rfl, here⟩ := Leb128.u32_reads.taken counted
    rcases Reader.bind_error later with entryFailed | ⟨entries, rest, repeated, last⟩
    · obtain ⟨rows, before, rest, rfl, row, fewer, entryRead⟩ := read_reads.times_error entryFailed
      have behind := @Bytes.length_le_offset (count ++ rows) _ _ (read_within.fault_suffix entryRead)
      rw [List.append_assoc] at behind
      exact .entry rfl here row fewer (read_reads.absent_of_error entryRead) behind
    · obtain ⟨rows, rfl, full, row⟩ := (read_reads.times n.toNat).taken repeated
      rcases Reader.bind_error last with ended | ⟨_, _, -, made⟩
      · obtain ⟨nonempty, rfl⟩ := Reader.finish_error ended
        rw [← full] at here
        refine .afterEntries rfl here row nonempty ?_
        rw [← List.append_assoc, Bytes.offset_append]
      · cases made

end Export

/-- The payload of an export section is read as some entries exactly if it spells them. Any other payload is
refused, for what is wrong with it and at an offset inside of it. -/
theorem Removal.parseExports_exact (payload : Bytes) :
    (∀ entries, parseExports ⟨.exports, payload⟩ = .ok entries ↔ Export.SpellsAll payload entries) ∧
      ((∃ entries, Export.SpellsAll payload entries) ∨
        ∃ offset reason,
          parseExports ⟨.exports, payload⟩ = .error (.malformedSection .exports offset reason) ∧
          offset ≤ payload.length ∧ Export.Misread payload offset reason) := by
  have accepted : ∀ entries,
      parseExports ⟨.exports, payload⟩ = .ok entries ↔ Export.SpellsAll payload entries := by
    intro entries
    rw [← Export.parse_ok_iff]
    exact mapError_ok_iff
  refine ⟨accepted, ?_⟩
  cases run : Export.parse payload with
  | ok entries => exact Or.inl ⟨entries, Export.parse_ok_iff.mp run⟩
  | error fault =>
      have refused : parseExports ⟨.exports, payload⟩ =
          .error (malformed ⟨.exports, payload⟩ fault) :=
        mapError_error_iff.mpr ⟨fault, run, rfl⟩
      exact Or.inr ⟨_, _, refused, Bytes.offset_le _ _, .of_parse run⟩

end Memoryless
