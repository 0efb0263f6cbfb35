import Memoryless.Proofs.ShortestExports
import Memoryless.Proofs.SizeReduction

/-!
# Binary modules in their shortest form

One module has many binary forms, as the size of each section may be padded. What is written of a module is
the shortest of them, and no other is as short. `Form.Least` says this of any form; it holds of the integers,
goes from them to frames and from frames to rows of frames, and so to files (`Module.Spells.least`).

`Module.SpellsBy` leaves open in which form the sizes in a file stand. `Module.encode_shortest` is that a file
is the one that is written of its module exactly if each size in it is as short as it can be.
-/

namespace Memoryless

namespace Form

/-- What is written of a value is the shortest of its spellings, and no other is as short. -/
def Least {α : Type} (form : Form α) (write : α → Bytes) : Prop :=
  ∀ {s a}, form s a → (write a).length ≤ s.length ∧ (s.length ≤ (write a).length → s = write a)

theorem Least.row {α : Type} {form : Form α} {write : α → Bytes} (least : form.Least write) :
    (Row form).Least (List.flatMap write) := by
  intro s all row
  induction row with
  | nil => exact ⟨Nat.le_refl 0, fun _ => rfl⟩
  | cons here _ ih =>
      obtain ⟨shorter, same⟩ := least here
      obtain ⟨shorterRest, sameRest⟩ := ih
      simp only [List.flatMap_cons, List.length_append]
      refine ⟨by omega, fun short => ?_⟩
      -- Neither part can make up for bytes that the other one has too many.
      rw [same (by omega), sameRest (by omega)]

end Form

theorem Leb128.Spells.least {width : Nat} : Form.Least (Spells width) Leb128.ofNat :=
  fun here => ⟨here.groups.length_ofNat_le, here.groups.eq_ofNat⟩

namespace Section

variable {x : Section} {s : Bytes}

/-- A frame whose size stands in the given form. -/
def FramesBy (number : Form Nat) : Form Section := fun s x =>
  ∃ size, number size x.payload.length ∧ s = x.id.byte :: (size ++ x.payload)

theorem Frames.least : Form.Least Frames write := by
  rintro s x ⟨size, here, rfl⟩
  obtain ⟨shorter, same⟩ := Leb128.Spells.least here
  simp only [write, List.length_cons, List.length_append]
  refine ⟨by omega, fun short => ?_⟩
  rw [same (by omega)]

/-- A frame whose size is as short as it can be is the one that is written. -/
theorem framesBy_shortest_iff :
    FramesBy (Leb128.Shortest 32) s x ↔ s = x.write ∧ x.payload.length < 2 ^ 32 := by
  simp only [FramesBy, Leb128.shortest_iff (show 0 < 32 by decide)]
  constructor
  · rintro ⟨_, ⟨rfl, fits⟩, rfl⟩
    exact ⟨rfl, fits⟩
  · rintro ⟨rfl, fits⟩
    exact ⟨_, ⟨rfl, fits⟩, rfl⟩

end Section

namespace Module

variable {m : Module} {file : Bytes}

/-- The header and the sections of a module, where the sizes stand in the given form. -/
def SpellsBy (number : Form Nat) : Form Module := fun file m =>
  ∃ frames, file = header ++ frames ∧ Form.Row (Section.FramesBy number) frames m.sections

theorem Spells.by (spelled : Spells file m) : SpellsBy (Leb128.Spells 32) file m :=
  spelled.framed

theorem Spells.least : Form.Least Spells Module.encode := by
  intro file m spelled
  obtain ⟨frames, rfl, row⟩ := spelled.framed
  obtain ⟨shorter, same⟩ := Section.Frames.least.row row
  simp only [Module.encode, List.length_append]
  refine ⟨by omega, fun short => ?_⟩
  rw [same (by omega)]

/-- A file in which every size is as short as it can be is the one that is written. -/
theorem Spells.by_shortest_iff (spelled : Spells file m) :
    SpellsBy (Leb128.Shortest 32) file m ↔ m.encode = file := by
  constructor
  · rintro ⟨frames, rfl, row⟩
    have written : Form.Row (fun s x => s = Section.write x) frames m.sections :=
      row.imp fun _ _ frame => (Section.framesBy_shortest_iff.mp frame).1
    rw [Module.encode, written.eq_flatMap]
  · rintro rfl
    exact ⟨_, rfl, Form.Row.flatMap fun x member =>
      Section.framesBy_shortest_iff.mpr ⟨rfl, spelled.payload_lt x member⟩⟩

/-- What is written of a module that was read from a file is no longer than the file, and as long only if it is
the file. That is so exactly if every size in the file is as short as it can be. Of all files that are read as
the module, what is written of it is the only one that no other is shorter than. -/
theorem encode_shortest (decoded : decode file = .ok m) :
    SpellsBy (Leb128.Spells 32) file m ∧ m.encode.length ≤ file.length ∧
      (m.encode.length = file.length ↔ m.encode = file) ∧
      (m.encode = file ↔ SpellsBy (Leb128.Shortest 32) file m) ∧
      ∀ s, (decode s = .ok m ∧ ∀ other, decode other = .ok m → s.length ≤ other.length) ↔ s = m.encode := by
  have spelled := Spells.of_decode decoded
  obtain ⟨shorter, same⟩ := spelled.least
  refine ⟨spelled.by, shorter, ⟨fun equal => (same (Nat.le_of_eq equal.symm)).symm, congrArg _⟩,
    spelled.by_shortest_iff.symm, fun s => ⟨?_, ?_⟩⟩
  · rintro ⟨run, shortest⟩
    exact (Spells.of_decode run).least.2 (shortest _ spelled.rewritten.decode)
  · rintro rfl
    exact ⟨spelled.rewritten.decode, fun other run => (Spells.of_decode run).least.1⟩

/-- The size of a memory section that takes two bytes, behind a custom section. -/
theorem encode_shortest_padded :
    decode (header ++ [0, 3, 1, 0x61, 7, 5, 0x83, 0, 1, 0, 1]) =
        .ok ⟨[⟨.custom, [1, 0x61, 7]⟩, ⟨.memories, [1, 0, 1]⟩]⟩ ∧
      ¬SpellsBy (Leb128.Shortest 32) (header ++ [0, 3, 1, 0x61, 7, 5, 0x83, 0, 1, 0, 1])
        ⟨[⟨.custom, [1, 0x61, 7]⟩, ⟨.memories, [1, 0, 1]⟩]⟩ := by
  have decoded : decode (header ++ [0, 3, 1, 0x61, 7, 5, 0x83, 0, 1, 0, 1]) =
      .ok ⟨[⟨.custom, [1, 0x61, 7]⟩, ⟨.memories, [1, 0, 1]⟩]⟩ := by cbv
  have written : encode ⟨[⟨.custom, [1, 0x61, 7]⟩, ⟨.memories, [1, 0, 1]⟩]⟩ =
      header ++ [0, 3, 1, 0x61, 7, 5, 3, 1, 0, 1] := by cbv
  refine ⟨decoded, fun shortest => ?_⟩
  have same := (encode_shortest decoded).2.2.2.1.mpr shortest
  rw [written] at same
  exact absurd same (by decide)

end Module

end Memoryless
