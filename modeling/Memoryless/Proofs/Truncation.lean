import Memoryless.Proofs.Diagnosis

/-!
# Truncated files

A binary module that is cut short is still a binary module only if it is cut between two sections.
`Module.Cut` says what becomes of a file of which the first bytes are left: behind the header, the cut is at
the end of a frame, and the sections up to there are left, or it is inside of a frame, and that section is
truncated. Wherever in the frame it is, the bytes end before the size does (`Leb128.Misspells.of_cut`) or
before the payload does, so nothing is looked at that could be wrong in another way
(`Section.Misframes.of_cut`).

`Module.decode_take_iff` says that nothing else is possible.
-/

namespace Memoryless

/-! ## Cutting a row -/

/-- A place in a row of values is in one of them, or in front of it. -/
theorem Form.Row.exists_part {α : Type} {form : Form α} {s : Bytes} {all : List α}
    (row : Row form s all) {n : Nat} (inside : n < s.length) :
    ∃ k a early part late, s = early ++ (part ++ late) ∧ Row form early (all.take k) ∧
      all[k]? = some a ∧ form part a ∧ early.length ≤ n ∧ n < (early ++ part).length := by
  induction row generalizing n with
  | nil => cases inside
  | @cons front back a others here row ih =>
      by_cases first : n < front.length
      · exact ⟨0, a, [], front, back, rfl, .nil, rfl, here, Nat.zero_le n, first⟩
      · rw [List.length_append] at inside
        obtain ⟨k, b, early, part, late, rfl, taken, at_k, found, from_, upTo⟩ :=
          ih (n := n - front.length) (by omega)
        refine ⟨k + 1, b, front ++ early, part, late, (List.append_assoc ..).symm, .cons here taken, at_k,
          found, ?_, ?_⟩
        · rw [List.length_append]
          omega
        · simp only [List.length_append] at upTo ⊢
          omega

namespace Leb128

theorem Groups.of_cons {b : UInt8} {s : Bytes} {n : Nat} (groups : Groups (b :: s) n) (goesOn : s ≠ []) :
    ∃ high, 128 ≤ b.toNat ∧ Groups s high := by
  cases groups with
  | last => exact absurd rfl goesOn
  | more first later => exact ⟨_, first, later⟩

/-- Every byte of a number but the last says that it goes on. -/
theorem Groups.goes_on {front back : Bytes} {n : Nat} (groups : Groups (front ++ back) n)
    (unfinished : back ≠ []) : ∀ c ∈ front, 128 ≤ c.toNat := by
  induction front generalizing n with
  | nil => exact List.forall_mem_nil _
  | cons b front ih =>
      obtain ⟨high, goesOn, later⟩ := groups.of_cons (List.append_ne_nil_of_right_ne_nil front unfinished)
      exact List.forall_mem_cons.mpr ⟨goesOn, ih later⟩

theorem Misspells.of_cut {format : IntegerFormat} {width : Nat} {front back : Bytes} {n : Nat}
    (here : Spells width (front ++ back) n) (unfinished : back ≠ []) :
    Misspells format width front .endOfInput := by
  have left := List.length_pos_of_ne_nil unfinished
  have short := here.short
  rw [List.length_append] at short
  exact .cut (by omega) (here.groups.goes_on unfinished)

end Leb128

/-- A frame that is cut behind the id byte ends before its size does, or before its payload does. -/
theorem Section.Misframes.of_cut {x : Section} {front back : Bytes}
    (frame : x.Frames (x.id.byte :: (front ++ back))) (unfinished : back ≠ []) : Misframes x.id front (.truncated x.id) := by
  rcases frame with ⟨size, here, whole⟩
  have same : front ++ back = size ++ x.payload := (List.cons.inj whole).2
  by_cases sized : size <+: front
  · obtain ⟨begun, rfl⟩ := sized
    rw [List.append_assoc] at same
    refine .payloadCut here ?_
    have left := List.length_pos_of_ne_nil unfinished
    rw [← List.append_cancel_left same, List.length_append]
    omega
  · have begun : front <+: size :=
      (List.prefix_or_prefix_of_prefix ⟨back, rfl⟩ ⟨x.payload, same.symm⟩).resolve_right sized
    obtain ⟨more, rfl⟩ := begun
    have unsized : more ≠ [] := by
      rintro rfl
      exact sized (by rw [List.append_nil])
    exact .sizeCut (.of_cut here unsized)

namespace Module

variable {m : Module} {file : Bytes} {n : Nat}

/-- The sections up to some place of a file are a module, too. -/
theorem Spells.take (spelled : Spells file m) {k : Nat} {early : Bytes}
    (row : Form.Row Section.Frames early (m.sections.take k)) :
    Spells (header ++ early) ⟨m.sections.take k⟩ where
  framed := ⟨early, rfl, row⟩
  ordered := by
    have whole := spelled.ordered
    rw [← List.take_append_drop k m.sections, ranks_append] at whole
    exact (List.pairwise_append.mp whole).1
  opened x member := spelled.opened x (List.mem_of_mem_take member)

/-- What a file that is cut after its first `n` bytes is read as, by where the cut is. -/
inductive Cut (m : Module) (file : Bytes) (n : Nat) : Except DecodeError Module → Prop
  | headless : n < header.length → Cut m file n (.error .malformedHeader)
  | between {front back : Bytes} {k : Nat} :
    file = front ++ back → Spells front ⟨m.sections.take k⟩ → front.length = n →
    Cut m file n (.ok ⟨m.sections.take k⟩)
  | inside {front frame back : Bytes} {k : Nat} {x : Section} :
    file = front ++ (frame ++ back) → Spells front ⟨m.sections.take k⟩ → m.sections[k]? = some x →
    x.Frames frame → front.length < n → n < (front ++ frame).length →
    Cut m file n (.error (.misframed front.length (.truncated x.id)))

theorem Cut.decode {outcome : Except DecodeError Module} (cut : Cut m file n outcome) :
    Module.decode (file.take n) = outcome := by
  cases cut with
  | headless short =>
      refine decode_malformedHeader_iff.mpr fun headed => ?_
      have long := headed.length_le
      rw [List.length_take] at long
      omega
  | between split spelled here =>
      rw [split, List.take_left' here]
      exact spelled.decode
  | @inside front frame back k x split spelled _ framed behind before =>
      obtain ⟨tail, rfl⟩ := framed.exists_cons
      obtain ⟨j, rfl⟩ := Nat.exists_eq_add_of_lt behind
      rw [List.length_append, List.length_cons] at before
      have left : (front ++ (x.id.byte :: tail ++ back)).take (front.length + j + 1) =
          front ++ x.id.byte :: tail.take j := by
        rw [Nat.add_assoc, List.take_length_add_append, List.cons_append, List.take_succ_cons,
          List.take_append_of_le_length (by omega)]
      have unfinished : tail.drop j ≠ [] := by
        rw [Ne, List.drop_eq_nil_iff]
        omega
      rw [← List.take_append_drop j tail] at framed
      rw [split, left]
      exact decode_misframed_iff.mpr
        ⟨front, _, _, rfl, rfl, spelled, .frame (.of_cut framed unfinished)⟩

/-- Every cut is in the header, at the end of it or of a section, or inside of a section. -/
theorem Spells.exists_cut (spelled : Spells file m) (short : n < file.length) :
    ∃ outcome, Cut m file n outcome := by
  by_cases headless : n < header.length
  · exact ⟨_, .headless headless⟩
  · obtain ⟨frames, rfl, row⟩ := spelled.framed
    rw [List.length_append] at short
    obtain ⟨k, x, early, frame, late, rfl, taken, at_k, framed, behind, before⟩ :=
      row.exists_part (n := n - header.length) (by omega)
    have split : header ++ (early ++ (frame ++ late)) = header ++ early ++ (frame ++ late) :=
      (List.append_assoc ..).symm
    have upTo : (header ++ early).length ≤ n := by
      rw [List.length_append]
      omega
    rcases Nat.eq_or_lt_of_le upTo with here | later
    · exact ⟨_, .between split (spelled.take taken) here⟩
    · refine ⟨_, .inside split (spelled.take taken) at_k framed later ?_⟩
      rw [List.append_assoc, List.length_append]
      omega

/-- The first bytes of a module are read as the place of the cut says. Without the whole header they are no
module, up to the end of a section they are the sections up to there, and otherwise the section in which they
end is truncated. -/
theorem decode_take_iff (whole : decode file = .ok m) (short : n < file.length)
    (outcome : Except DecodeError Module) :
    decode (file.take n) = outcome ↔ Cut m file n outcome := by
  refine ⟨fun run => ?_, Cut.decode⟩
  obtain ⟨other, cut⟩ := (Spells.of_decode whole).exists_cut short
  rwa [← run, cut.decode]

/-- A cut between the two bytes of the padded size of a code section that stands behind a custom section. -/
theorem decode_take_iff_padded :
    decode (header ++ [0, 3, 1, 0x61, 7, 10, 0x84, 0, 1, 2, 0, 0x0b]) =
        .ok ⟨[⟨.custom, [1, 0x61, 7]⟩, ⟨.code, [1, 2, 0, 0x0b]⟩]⟩ ∧
      15 < (header ++ [0, 3, 1, 0x61, 7, 10, 0x84, 0, 1, 2, 0, 0x0b]).length ∧
      Cut ⟨[⟨.custom, [1, 0x61, 7]⟩, ⟨.code, [1, 2, 0, 0x0b]⟩]⟩
        (header ++ [0, 3, 1, 0x61, 7, 10, 0x84, 0, 1, 2, 0, 0x0b]) 15
        (.error (.misframed 13 (.truncated .code))) := by
  have whole : decode (header ++ [0, 3, 1, 0x61, 7, 10, 0x84, 0, 1, 2, 0, 0x0b]) =
      .ok ⟨[⟨.custom, [1, 0x61, 7]⟩, ⟨.code, [1, 2, 0, 0x0b]⟩]⟩ := by cbv
  have short : 15 < (header ++ [0, 3, 1, 0x61, 7, 10, 0x84, 0, 1, 2, 0, 0x0b]).length := by decide
  have run : decode ((header ++ [0, 3, 1, 0x61, 7, 10, 0x84, 0, 1, 2, 0, 0x0b]).take 15) =
      .error (.misframed 13 (.truncated .code)) := by cbv
  exact ⟨whole, short, (decode_take_iff whole short _).mp run⟩

end Module

end Memoryless
