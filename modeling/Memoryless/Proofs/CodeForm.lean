import Memoryless.Code
import Memoryless.Proofs.Forms

/-!
# The form of a code section

`FunctionBody.Framed` is the grammar of the payload of a code section: the number of bodies, then each
body after its size, and nothing else. What the bodies contain does not matter.
`FunctionBody.parse_ok_iff` says that exactly these payloads are cut into bodies, and `Framed.body`
where a body then stands in the payload.
-/

namespace Memoryless.FunctionBody

/-- Bodies one after the other, each with its size in front of it, numbered from `first`. -/
inductive Listed : Nat → Bytes → List FunctionBody → Prop
  | nil {first : Nat} : Listed first [] []
  | cons {first : Nat} {size contents rest : Bytes} {bodies : List FunctionBody} :
    Leb128.Spells 32 size contents.length → Listed (first + 1) rest bodies →
    Listed first (size ++ (contents ++ rest)) (⟨first.toUInt32, contents, rest⟩ :: bodies)

/-- A form of the payload: the number of bodies, and the bodies. -/
def Framed : Form (List FunctionBody) := fun payload bodies =>
  ∃ count rows, Leb128.Spells 32 count bodies.length ∧ Listed 0 rows bodies ∧ payload = count ++ rows

/-! ## One body -/

theorem readContents_ok_iff {n : Nat} {s contents rest : Bytes} :
    readContents n s = .ok (contents, rest) ↔ s = contents ++ rest ∧ contents.length = n := by
  have reads := Reader.Reads.bytes n
  unfold readContents
  refine ⟨fun run => ?_, fun parts => ?_⟩
  · split at run
    · cases run
    · rename_i front left taken
      cases run
      obtain ⟨_, split, rfl, full⟩ := reads.taken taken
      exact ⟨split, full⟩
  · rcases parts with ⟨rfl, full⟩
    rw [reads.accepted ⟨rfl, full⟩ rest]

theorem read_ok_iff {s contents after rest : Bytes} :
    read s = .ok ((contents, after), rest) ↔
      after = rest ∧ ∃ size, Leb128.Spells 32 size contents.length ∧
        s = size ++ (contents ++ rest) := by
  refine ⟨fun run => ?_, fun parts => ?_⟩
  · obtain ⟨n, middle, sizeRead, later⟩ := Reader.bind_ok run
    obtain ⟨found, left, contentsRead, made⟩ := Reader.bind_ok later
    cases made
    obtain ⟨size, rfl, here⟩ := Leb128.u32_reads.taken sizeRead
    obtain ⟨rfl, full⟩ := readContents_ok_iff.mp contentsRead
    exact ⟨rfl, size, full.symm ▸ here, rfl⟩
  · rcases parts with ⟨rfl, size, here, rfl⟩
    have sizeRead := Leb128.u32_accepted here (contents ++ after)
    have contentsRead : readContents contents.length.toUInt32.toNat (contents ++ after) =
        .ok (contents, after) :=
      readContents_ok_iff.mpr ⟨rfl, here.toNat_toUInt32.symm⟩
    simp only [read, Bind.bind, StateT.bind, Except.bind, sizeRead, contentsRead]
    rfl

/-! ## All bodies -/

/-- Bodies with what follows them, numbered from `first`. -/
def number (first : Nat) (parts : List (Bytes × Bytes)) : List FunctionBody :=
  parts.mapIdx fun i part => ⟨(first + i).toUInt32, part.1, part.2⟩

theorem number_cons {first : Nat} {part : Bytes × Bytes} {parts : List (Bytes × Bytes)} :
    number first (part :: parts) = ⟨first.toUInt32, part.1, part.2⟩ :: number (first + 1) parts := by
  unfold number
  rw [List.mapIdx_cons]
  simp only [Nat.add_zero, Nat.add_assoc, Nat.add_comm 1]

theorem length_number {first : Nat} {parts : List (Bytes × Bytes)} :
    (number first parts).length = parts.length :=
  List.length_mapIdx

/-- The numbers of listed bodies are known from where the list begins. -/
theorem Listed.number_eq {first : Nat} {s : Bytes} {bodies : List FunctionBody}
    (listed : Listed first s bodies) :
    number first (bodies.map fun body => (body.contents, body.rest)) = bodies := by
  induction listed with
  | nil => rfl
  | cons _ _ ih => rw [List.map_cons, number_cons, ih]

theorem times_read_ok_iff {first : Nat} {s : Bytes} {parts : List (Bytes × Bytes)} :
    Reader.times parts.length read s = .ok (parts, []) ↔ Listed first s (number first parts) := by
  induction parts generalizing first s with
  | nil =>
      refine ⟨fun run => ?_, fun listed => ?_⟩
      · cases run
        exact .nil
      · cases listed
        rfl
  | cons part parts ih =>
      rw [List.length_cons, Reader.times_succ, number_cons]
      refine ⟨fun run => ?_, fun listed => ?_⟩
      · obtain ⟨⟨contents, after⟩, middle, bodyRead, later⟩ := Reader.bind_ok run
        obtain ⟨others, left, othersRead, made⟩ := Reader.bind_ok later
        cases made
        obtain ⟨rfl, size, here, rfl⟩ := read_ok_iff.mp bodyRead
        exact .cons here (ih.mp othersRead)
      · cases listed with
        | @cons _ size _ _ _ here listed =>
            have bodyRead : read (size ++ (part.1 ++ part.2)) = .ok (part, part.2) :=
              read_ok_iff.mpr ⟨rfl, size, here, rfl⟩
            have othersRead := ih.mpr listed
            simp only [Bind.bind, StateT.bind, Except.bind, bodyRead, othersRead]
            rfl

theorem parse_ok_iff {payload : Bytes} {bodies : List FunctionBody} :
    parse payload = .ok bodies ↔ Framed payload bodies := by
  unfold parse readAll
  refine ⟨fun run => ?_, fun framed => ?_⟩
  · obtain ⟨⟨parts, left⟩, whole, numbered⟩ := map_ok_iff.mp run
    obtain ⟨-, count, rows, here, repeated, split⟩ := (Leb128.counted_ok_iff .afterEntries).mp whole
    have same : number 0 parts = bodies := by
      rw [← numbered]
      simp only [number, Nat.zero_add]
    rw [← same]
    exact ⟨count, rows, length_number.symm ▸ here, times_read_ok_iff.mp repeated, split⟩
  · rcases framed with ⟨count, rows, here, listed, split⟩
    have same := listed.number_eq
    rw [← same] at here listed
    rw [length_number] at here
    have repeated := times_read_ok_iff.mpr listed
    have whole := (Leb128.counted_ok_iff .afterEntries).mpr
      ⟨rfl, count, rows, here, repeated, split⟩
    refine map_ok_iff.mpr ⟨_, whole, ?_⟩
    simpa only [number, Nat.zero_add] using same

/-! ## Where a body stands -/

theorem Listed.body {first i : Nat} {s : Bytes} {bodies : List FunctionBody} {body : FunctionBody}
    (listed : Listed first s bodies) (at_i : bodies[i]? = some body) :
    body.index = (first + i).toUInt32 ∧ body.contents.length < 2 ^ 32 ∧
      ∃ front, s = front ++ (body.contents ++ body.rest) := by
  induction listed generalizing i with
  | nil => cases at_i
  | @cons first size contents rest bodies here _ ih =>
      cases i with
      | zero =>
          cases at_i
          exact ⟨rfl, here.fits, size, rfl⟩
      | succ i =>
          obtain ⟨numbered, short, front, split⟩ := ih at_i
          refine ⟨by rw [numbered, Nat.add_right_comm, Nat.add_assoc], short, ?_⟩
          refine ⟨size ++ (contents ++ front), ?_⟩
          rw [split, List.append_assoc, List.append_assoc]

/-- A body has its place among the bodies for its number, and stands somewhere in the payload. -/
theorem Framed.body {i : Nat} {payload : Bytes} {bodies : List FunctionBody} {body : FunctionBody}
    (framed : Framed payload bodies) (at_i : bodies[i]? = some body) :
    body.index.toNat = i ∧ body.contents.length < 2 ^ 32 ∧
      ∃ front, payload = front ++ (body.contents ++ body.rest) := by
  rcases framed with ⟨count, rows, here, listed, rfl⟩
  obtain ⟨numbered, short, front, rfl⟩ := listed.body at_i
  have among : i < bodies.length := (List.getElem?_eq_some_iff.mp at_i).1
  refine ⟨?_, short, count ++ front, (List.append_assoc ..).symm⟩
  rw [numbered, Nat.zero_add, Nat.toUInt32_eq, UInt32.toNat_ofNat_of_lt']
  exact Nat.lt_trans among here.fits

/-- The bodies are numbered in order. -/
theorem Framed.indices {payload : Bytes} {bodies : List FunctionBody} (framed : Framed payload bodies) :
    bodies.map (fun body => body.index.toNat) = List.range bodies.length := by
  apply List.ext_getElem
  · rw [List.length_map, List.length_range]
  · intro i among _
    rw [List.length_map] at among
    obtain ⟨numbered, -, -⟩ := framed.body (List.getElem?_eq_getElem among)
    rw [List.getElem_map, List.getElem_range, numbered]

/-- The payload begins with the number of its bodies. -/
theorem Framed.counted {payload : Bytes} {bodies : List FunctionBody} (framed : Framed payload bodies) :
    ∃ count rows, Leb128.u32 payload = .ok (count, rows) ∧ count.toNat = bodies.length := by
  rcases framed with ⟨count, rows, here, -, rfl⟩
  exact ⟨_, rows, Leb128.u32_accepted here rows, here.toNat_toUInt32⟩

/-- The offset of a place is the length of what stands before it. -/
theorem offset_eq {body : FunctionBody} {payload front place : Bytes}
    (split : payload = front ++ (place ++ body.rest)) : body.offset payload place = front.length := by
  unfold offset
  rw [split]
  simp only [List.length_append]
  omega

end Memoryless.FunctionBody
