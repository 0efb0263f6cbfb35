import Memoryless.Proofs.ExportForm

/-!
# Export sections in their shortest form

An integer has one shortest form, and that is the one that is written: `Leb128.shortest_iff`. The numbers in
the payload of an export section are the count of the entries, and in each entry the length of the name and
the index. `Export.SpellsAllBy` leaves open in which form they stand, so that the same grammar speaks of
any forms and of the shortest ones.

Entries that were written are read again, and entries that were read are written in the same bytes exactly
if no number among them was padded: `Export.parse_writeAll`.
-/

namespace Memoryless

namespace Leb128

/-! ## Integers -/

/-- A form of an integer that no other is shorter than. -/
def Shortest (width : Nat) : Form Nat := fun s n =>
  Spells width s n ∧ ∀ other, Spells width other n → s.length ≤ other.length

/-- Of the forms that are no longer than the one that is written there is no other. -/
theorem Groups.eq_ofNat {s : Bytes} {n : Nat} (groups : Groups s n)
    (short : s.length ≤ (ofNat n).length) : s = ofNat n := by
  induction groups with
  | last ends =>
      rw [ofNat, if_pos ends]
      simp
  | @more b s n goesOn groups ih =>
      have small : b.toNat < 256 := b.toNat_lt
      have low : (b.toNat - 128 + 128 * n) % 128 + 128 = b.toNat := by omega
      have high : (b.toNat - 128 + 128 * n) / 128 = n := by omega
      rw [ofNat] at short ⊢
      split at short
      · -- A single byte is written, but the form goes on after its first.
        have more := groups.length_pos
        rw [List.length_singleton, List.length_cons] at short
        omega
      · rename_i large
        rw [high, List.length_cons, List.length_cons] at short
        rw [if_neg large, low, high, ← ih (Nat.le_of_succ_le_succ short)]
        simp

theorem shortest_iff {width : Nat} (positive : 0 < width) {s : Bytes} {n : Nat} :
    Shortest width s n ↔ s = ofNat n ∧ n < 2 ^ width := by
  constructor
  · rintro ⟨here, least⟩
    exact ⟨here.groups.eq_ofNat (least _ (.ofNat positive here.fits)), here.fits⟩
  · rintro ⟨rfl, fits⟩
    exact ⟨.ofNat positive fits, fun other there => there.groups.length_ofNat_le⟩

end Leb128

namespace Export

/-! ## Entries and payloads -/

variable {number : Form Nat} {s payload : Bytes} {e : Export} {entries : List Export}

/-- An entry whose numbers stand in the given form: the length of the name, and the index. -/
def SpellsBy (number : Form Nat) : Form Export := fun s e =>
  ∃ size index, number size (Name.utf8 e.name).length ∧ number index e.index.toNat ∧
    s = size ++ (Name.utf8 e.name ++ e.kind.byte :: index)

/-- A payload whose numbers stand in the given form: the number of entries, and those of the entries. -/
def SpellsAllBy (number : Form Nat) : Form (List Export) := fun payload entries =>
  ∃ count rows, number count entries.length ∧ Form.Row (SpellsBy number) rows entries ∧
    payload = count ++ rows

theorem Spells.by (spelled : Spells s e) : SpellsBy (Leb128.Spells 32) s e := by
  rcases spelled with ⟨_, index, ⟨size, rfl, sized, -⟩, indexed, rfl⟩
  exact ⟨size, index, sized, indexed, List.append_assoc ..⟩

theorem SpellsAll.by (spelled : SpellsAll payload entries) :
    SpellsAllBy (Leb128.Spells 32) payload entries := by
  rcases spelled with ⟨count, rows, counted, row, split⟩
  exact ⟨count, rows, counted, row.imp fun _ _ => Spells.by, split⟩

/-- An entry whose numbers are as short as they can be is the one that is written. -/
theorem spellsBy_shortest_iff :
    SpellsBy (Leb128.Shortest 32) s e ↔ s = write e ∧ (Name.utf8 e.name).length < 2 ^ 32 := by
  simp only [SpellsBy, Leb128.shortest_iff (show 0 < 32 by decide)]
  constructor
  · rintro ⟨_, _, ⟨rfl, fits⟩, ⟨rfl, -⟩, rfl⟩
    exact ⟨(List.append_assoc ..).symm, fits⟩
  · rintro ⟨rfl, fits⟩
    exact ⟨_, _, ⟨rfl, fits⟩, ⟨rfl, e.index.toNat_lt⟩, List.append_assoc ..⟩

theorem spellsAllBy_shortest_iff (few : entries.length < 2 ^ 32)
    (small : ∀ e ∈ entries, (Name.utf8 e.name).length < 2 ^ 32) :
    SpellsAllBy (Leb128.Shortest 32) payload entries ↔ writeAll entries = payload := by
  have count : writeAll entries = Leb128.ofNat entries.length ++ entries.flatMap write := by
    rw [writeAll, Nat.toUInt32_eq, UInt32.toNat_ofNat_of_lt' few]
  rw [count]
  constructor
  · rintro ⟨_, _, counted, row, rfl⟩
    have written : Form.Row (fun part e => part = write e) _ entries :=
      row.imp fun _ _ here => (spellsBy_shortest_iff.mp here).1
    rw [((Leb128.shortest_iff (by decide)).mp counted).1, written.eq_flatMap]
  · intro written
    have row : Form.Row (SpellsBy (Leb128.Shortest 32)) (entries.flatMap write) entries :=
      Form.Row.flatMap fun e member => spellsBy_shortest_iff.mpr ⟨rfl, small e member⟩
    exact ⟨_, _, (Leb128.shortest_iff (by decide)).mpr ⟨rfl, few⟩, row, written.symm⟩

/-- Entries are written and read again, if their number fits and no name is too long, as in the entries of any
payload. What is written of the entries of a payload is no longer than the payload, and it is the payload
exactly if all numbers in it are in their shortest form. -/
theorem parse_writeAll :
    (∀ entries : List Export, entries.length < 2 ^ 32 →
      (∀ e ∈ entries, (Name.utf8 e.name).length ≤ Name.limit) →
      parse (writeAll entries) = .ok entries) ∧
    ∀ payload entries, parse payload = .ok entries →
      entries.length < 2 ^ 32 ∧ (∀ e ∈ entries, (Name.utf8 e.name).length ≤ Name.limit) ∧
      SpellsAllBy (Leb128.Spells 32) payload entries ∧
      (writeAll entries).length ≤ payload.length ∧
      (writeAll entries = payload ↔ SpellsAllBy (Leb128.Shortest 32) payload entries) := by
  refine ⟨fun entries few small => parse_ok_iff.mpr (.writeAll few small), fun payload entries run => ?_⟩
  have spelled := parse_ok_iff.mp run
  have small : ∀ e ∈ entries, (Name.utf8 e.name).length < 2 ^ 32 := by
    intro e member
    exact Nat.lt_of_le_of_lt (spelled.name_le e member) (by decide)
  exact ⟨spelled.length_lt, spelled.name_le, spelled.by, spelled.length_writeAll_le (List.Sublist.refl _),
    (spellsAllBy_shortest_iff spelled.length_lt small).symm⟩

/-- An index that takes all five bytes is read again; a count and an index that are padded are not written
as they were. -/
theorem parse_writeAll_padded :
    parse (writeAll [⟨"é", .tag, 0xffffffff⟩]) = .ok [⟨"é", .tag, 0xffffffff⟩] ∧
      parse [0x81, 0, 1, 0x6d, 2, 0x80, 0] = .ok [⟨"m", .memory, 0⟩] ∧
      writeAll [⟨"m", .memory, 0⟩] = [1, 1, 0x6d, 2, 0] ∧
      ¬SpellsAllBy (Leb128.Shortest 32) [0x81, 0, 1, 0x6d, 2, 0x80, 0] [⟨"m", .memory, 0⟩] := by
  have run : parse [0x81, 0, 1, 0x6d, 2, 0x80, 0] = .ok [⟨"m", .memory, 0⟩] := by cbv
  have written : writeAll [⟨"m", .memory, 0⟩] = [1, 1, 0x6d, 2, 0] := by cbv
  refine ⟨parse_writeAll.1 _ (by decide) (by decide), run, written, fun shortest => ?_⟩
  have same := (parse_writeAll.2 _ _ run).2.2.2.2.mpr shortest
  rw [written] at same
  exact absurd same (by decide)

end Export

end Memoryless
