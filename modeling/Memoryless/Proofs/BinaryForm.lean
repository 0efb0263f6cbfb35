import Memoryless.Module.Binary
import Memoryless.Proofs.Forms

/-!
# The form of a binary module

`Module.Spells` is the grammar of a file: the header, then one frame a section, where sizes may be
padded, the ranks of the sections that have one increase strictly, and every payload opens as its kind
of section asks. `Module.decode_ok_iff_spells` says that exactly these files are read.

A frame alone is settled by `Section.read_ok_iff`. The count of function bodies is read before the code
section is cut out of the file; `Section.checkOpening_ok_iff` is where this is seen to make no
difference.
-/

namespace Memoryless

namespace Section

/-! ## Frames -/

/-- A frame: the id byte, the size of the payload, and the payload. -/
def Frames : Form Section := fun s x =>
  ∃ size, Leb128.Spells 32 size x.payload.length ∧ s = x.id.byte :: (size ++ x.payload)

/-- The payload begins as its kind of section asks: with a name in a custom section, as a single number
in the start section and the data count section, else with a count. -/
def Opens (x : Section) : Prop :=
  match x.id with
  | .custom => ∃ text name more, Name.Spells text name ∧ x.payload = text ++ more
  | .start | .dataCount => ∃ n, Leb128.Spells 32 x.payload n
  | _ => ∃ count n more, Leb128.Spells 32 count n ∧ x.payload = count ++ more

section Opening

variable {α : Type} {r : Reader α} {form : Form α} {id : SectionId} {payload rest : Bytes}

theorem pass_ok_iff (reads : r.Reads form) {s : Bytes} :
    (∃ left, r.pass s = .ok ((), left)) ↔ ∃ front a more, form front a ∧ s = front ++ more := by
  have passed : r.pass.Reads fun front _ => ∃ a, form front a ∧ () = () := reads.map
  refine ⟨fun parts => ?_, fun parts => ?_⟩
  · rcases parts with ⟨left, run⟩
    obtain ⟨front, split, a, here, -⟩ := passed.taken run
    exact ⟨front, a, left, here, split⟩
  · rcases parts with ⟨front, a, more, here, rfl⟩
    exact ⟨more, passed.accepted ⟨a, here, rfl⟩ more⟩

theorem single_ok_iff {reason : Reason} {s : Bytes} :
    (∃ left, (do let _ ← Leb128.u32; Reader.finish reason : Reader Unit) s = .ok ((), left)) ↔
      ∃ n, Leb128.Spells 32 s n := by
  refine ⟨fun parts => ?_, fun parts => ?_⟩
  · rcases parts with ⟨left, run⟩
    obtain ⟨n, middle, counted, ended⟩ := Reader.bind_ok run
    cases middle with
    | nil => exact ⟨n.toNat, Leb128.u32_reads.whole.mp counted⟩
    | cons => cases ended
  · rcases parts with ⟨n, here⟩
    have counted := Leb128.u32_accepted here []
    rw [List.append_nil] at counted
    refine ⟨[], ?_⟩
    simp only [Bind.bind, StateT.bind, Except.bind, counted, Reader.finish]

theorem u32_pass_ok_iff {s : Bytes} :
    (∃ left, Leb128.u32.pass s = .ok ((), left)) ↔
      ∃ count n more, Leb128.Spells 32 count n ∧ s = count ++ more := by
  rw [pass_ok_iff Leb128.u32_reads]
  refine ⟨fun parts => ?_, fun parts => ?_⟩
  · rcases parts with ⟨count, n, more, here, split⟩
    exact ⟨count, n.toNat, more, here, split⟩
  · rcases parts with ⟨count, n, more, here, split⟩
    exact ⟨count, n.toUInt32, more, here.toUInt32, split⟩

theorem opening_ok_iff :
    (∃ left, opening id payload = .ok ((), left)) ↔ Opens ⟨id, payload⟩ := by
  cases id with
  | custom => exact pass_ok_iff Name.read_reads
  | start => exact single_ok_iff
  | dataCount => exact single_ok_iff
  | _ => exact u32_pass_ok_iff

/-- A count that is read from the file lies in the payload unless it leaves less than what follows. -/
theorem checkOpening_code_ok_iff :
    checkOpening .code (payload ++ rest) payload rest = .ok () ↔ Opens ⟨.code, payload⟩ := by
  refine ⟨fun run => ?_, fun parts => ?_⟩
  · rw [checkOpening.eq_1] at run
    split at run
    · cases run
    · rename_i n left counted
      split at run
      · cases run
      · rename_i enough
        obtain ⟨count, split, here⟩ := Leb128.u32_reads.taken counted
        have lengths := congrArg List.length split
        rw [List.length_append, List.length_append] at lengths
        have inside : count <+: payload :=
          List.prefix_of_prefix_length_le ⟨left, split.symm⟩ (List.prefix_append payload rest)
            (by omega)
        obtain ⟨more, whole⟩ := inside
        exact ⟨count, n.toNat, more, here, whole.symm⟩
  · rcases parts with ⟨count, n, more, here, rfl⟩
    have counted := Leb128.u32_accepted here (more ++ rest)
    rw [checkOpening.eq_1, List.append_assoc, counted]
    simp

theorem checkOpening_ok_iff :
    checkOpening id (payload ++ rest) payload rest = .ok () ↔ Opens ⟨id, payload⟩ := by
  by_cases isCode : id = .code
  · subst isCode
    exact checkOpening_code_ok_iff
  · rw [← opening_ok_iff, checkOpening.eq_2 _ _ _ _ isCode]
    cases opening id payload with
    | error fault => simp
    | ok pair => exact iff_of_true rfl ⟨pair.2, rfl⟩

end Opening

theorem read_ok_iff {id : SectionId} {s rest : Bytes} {x : Section} :
    read id s = .ok (x, rest) ↔
      x.id = id ∧ x.Opens ∧
        ∃ size, Leb128.Spells 32 size x.payload.length ∧ s = size ++ (x.payload ++ rest) := by
  refine ⟨fun run => ?_, fun parts => ?_⟩
  · unfold read at run
    split at run
    · cases run
    · rename_i n contents sizeRead
      split at run
      · cases run
      · rename_i payload left payloadRead
        obtain ⟨size, rfl, here⟩ := Leb128.u32_reads.taken sizeRead
        obtain ⟨_, rfl, rfl, full⟩ := (Reader.Reads.bytes n.toNat).taken payloadRead
        split at run
        · cases run
        · rename_i opened
          cases run
          exact ⟨rfl, checkOpening_ok_iff.mp opened, size, full.symm ▸ here, rfl⟩
  · rcases parts with ⟨rfl, opened, size, here, rfl⟩
    have sizeRead := Leb128.u32_accepted here (x.payload ++ rest)
    have payloadRead :=
      (Reader.Reads.bytes _).accepted ⟨rfl, here.toNat_toUInt32.symm⟩ rest
    simp only [read, sizeRead, payloadRead, checkOpening_ok_iff.mpr opened]

theorem Frames.exists_cons {x : Section} {front : Bytes} (frame : x.Frames front) :
    ∃ tail, front = x.id.byte :: tail := by
  rcases frame with ⟨size, -, rfl⟩
  exact ⟨size ++ x.payload, rfl⟩

/-- What is read is a frame, together with the id byte in front of it. -/
theorem read_ok_iff_frames {id : SectionId} {s rest : Bytes} {x : Section} :
    read id s = .ok (x, rest) ↔
      x.id = id ∧ x.Opens ∧ ∃ tail, x.Frames (id.byte :: tail) ∧ s = tail ++ rest := by
  rw [read_ok_iff]
  refine ⟨fun parts => ?_, fun parts => ?_⟩
  · rcases parts with ⟨rfl, opened, size, here, rfl⟩
    exact ⟨rfl, opened, size ++ x.payload, ⟨size, here, rfl⟩, (List.append_assoc ..).symm⟩
  · rcases parts with ⟨rfl, opened, tail, ⟨size, here, same⟩, rfl⟩
    obtain rfl := (List.cons.inj same).2
    exact ⟨rfl, opened, size, here, List.append_assoc ..⟩

end Section

namespace Module

/-! ## Files -/

/-- The ranks of the sections that have one. -/
def ranks (sections : List Section) : List Nat :=
  sections.filterMap fun x => x.id.rank?

/-- `file` is a binary form of the module. -/
structure Spells (file : Bytes) (m : Module) : Prop where
  framed : ∃ frames, file = header ++ frames ∧ Form.Row Section.Frames frames m.sections
  ordered : (ranks m.sections).Pairwise (· < ·)
  opened : ∀ x ∈ m.sections, x.Opens

theorem ranks_cons_none {x : Section} {sections : List Section} (unranked : x.id.rank? = none) :
    ranks (x :: sections) = ranks sections := by
  rw [ranks, List.filterMap_cons, unranked, ranks]

theorem ranks_cons_some {x : Section} {sections : List Section} {rank : Nat}
    (ranked : x.id.rank? = some rank) : ranks (x :: sections) = rank :: ranks sections := by
  rw [ranks, List.filterMap_cons, ranked, ranks]

theorem ranks_append {first second : List Section} :
    ranks (first ++ second) = ranks first ++ ranks second :=
  List.filterMap_append

theorem ranks_eq_filterMap (sections : List Section) :
    ranks sections = (sections.map Section.id).filterMap SectionId.rank? := by
  rw [List.filterMap_map]
  rfl

theorem ranks_sublist {first second : List Section}
    (sub : (first.map Section.id).Sublist (second.map Section.id)) :
    (ranks first).Sublist (ranks second) := by
  rw [ranks_eq_filterMap first, ranks_eq_filterMap second]
  exact sub.filterMap SectionId.rank?

theorem mem_ranks {x : Section} {sections : List Section} {rank : Nat} (member : x ∈ sections)
    (ranked : x.id.rank? = some rank) : rank ∈ ranks sections :=
  List.mem_filterMap.mpr ⟨x, member, ranked⟩

theorem rank?_pos {id : SectionId} {rank : Nat} (ranked : id.rank? = some rank) : 0 < rank := by
  cases id <;> cases ranked <;> exact Nat.succ_pos _

/-- Every rank is above the one from which reading starts. -/
theorem pairwise_zero_ranks_iff {sections : List Section} :
    (0 :: ranks sections).Pairwise (· < ·) ↔ (ranks sections).Pairwise (· < ·) := by
  rw [List.pairwise_cons]
  refine ⟨And.right, fun ordered => ⟨fun rank member => ?_, ordered⟩⟩
  obtain ⟨x, -, ranked⟩ := List.mem_filterMap.mp member
  exact rank?_pos ranked

/-- The order is kept if each section may follow the rank reached before it. -/
theorem pairwise_ranks_cons_iff {last : Nat} {x : Section} {sections : List Section} :
    (last :: ranks (x :: sections)).Pairwise (· < ·) ↔
      ∃ rank, nextRank? last x.id = some rank ∧ (rank :: ranks sections).Pairwise (· < ·) := by
  unfold nextRank?
  cases ranked : x.id.rank? with
  | none => simp [ranks_cons_none ranked]
  | some rank =>
      rw [ranks_cons_some ranked]
      dsimp only
      refine ⟨fun ordered => ?_, fun parts => ?_⟩
      · obtain ⟨above, later⟩ := List.pairwise_cons.mp ordered
        exact ⟨rank, if_pos (above rank List.mem_cons_self), later⟩
      · rcases parts with ⟨reached, next, later⟩
        split at next
        · rename_i above
          cases next
          refine List.pairwise_cons.mpr ⟨fun other member => ?_, later⟩
          rcases List.mem_cons.mp member with rfl | further
          · exact above
          · exact Nat.lt_trans above ((List.pairwise_cons.mp later).1 other further)
        · cases next

/-- What one turn of the loop over sections does, if all are read. -/
theorem readSections_ok_cons {last : Nat} {b : UInt8} {s : Bytes} {sections : List Section}
    (run : readSections last [] (b :: s) = .ok sections) :
    ∃ id x rest rank others, SectionId.ofByte? b = some id ∧ Section.read id s = .ok (x, rest) ∧
      nextRank? last id = some rank ∧ readSections rank [] rest = .ok others ∧
      sections = x :: others := by
  rw [readSections_cons] at run
  split at run
  · cases run
  · rename_i id known
    split at run
    · cases run
    · rename_i x rest framed
      split at run
      · cases run
      · rename_i rank next
        rw [readSections_taken] at run
        cases tail : readSections rank [] rest with
        | error fault => rw [tail] at run; cases run
        | ok others =>
            rw [tail] at run
            cases run
            exact ⟨id, x, rest, rank, others, known, framed, next, tail, rfl⟩

theorem readSections_eq_nil_iff {last : Nat} {s : Bytes} :
    readSections last [] s = .ok [] ↔ s = [] := by
  cases s with
  | nil => simp [readSections]
  | cons b s =>
      refine ⟨fun run => ?_, fun none => by cases none⟩
      obtain ⟨_, _, _, _, _, _, _, _, _, none⟩ := readSections_ok_cons run
      cases none

/-- One frame, and what is made of the bytes after it. -/
theorem readSections_frame {last rank : Nat} {x : Section} {front : Bytes} (frame : x.Frames front)
    (opened : x.Opens) (next : nextRank? last x.id = some rank) (rest : Bytes) :
    readSections last [] (front ++ rest) = (readSections rank [] rest).map (x :: ·) := by
  obtain ⟨tail, rfl⟩ := frame.exists_cons
  have framed : Section.read x.id (tail ++ rest) = .ok (x, rest) :=
    Section.read_ok_iff_frames.mpr ⟨rfl, opened, tail, frame, rfl⟩
  rw [List.cons_append, readSections_cons]
  simp only [SectionId.ofByte?_byte, framed, next]
  exact readSections_taken ..

theorem readSections_eq_cons_iff {last : Nat} {s : Bytes} {x : Section} {others : List Section} :
    readSections last [] s = .ok (x :: others) ↔
      ∃ front rest rank, s = front ++ rest ∧ x.Frames front ∧ x.Opens ∧
        nextRank? last x.id = some rank ∧ readSections rank [] rest = .ok others := by
  refine ⟨fun run => ?_, fun parts => ?_⟩
  · cases s with
    | nil => rw [readSections] at run; cases run
    | cons b s =>
        obtain ⟨id, _, rest, rank, _, known, framed, next, later, same⟩ := readSections_ok_cons run
        cases same
        obtain ⟨rfl, opened, tail, frame, rfl⟩ := Section.read_ok_iff_frames.mp framed
        refine ⟨_, rest, rank, ?_, frame, opened, next, later⟩
        rw [SectionId.byte_of_ofByte? known, List.cons_append]
  · rcases parts with ⟨front, rest, rank, rfl, frame, opened, next, later⟩
    rw [readSections_frame frame opened next, later]
    rfl

theorem readSections_ok_iff {last : Nat} {s : Bytes} {sections : List Section} :
    readSections last [] s = .ok sections ↔
      Form.Row Section.Frames s sections ∧ (last :: ranks sections).Pairwise (· < ·) ∧
        ∀ x ∈ sections, x.Opens := by
  induction sections generalizing last s with
  | nil =>
      rw [readSections_eq_nil_iff]
      refine ⟨fun parts => ?_, fun parts => ?_⟩
      · rcases parts with rfl
        exact ⟨.nil, List.pairwise_singleton .., fun x member => by cases member⟩
      · rcases parts with ⟨row, -, -⟩
        cases row
        rfl
  | cons x others ih =>
      rw [readSections_eq_cons_iff, pairwise_ranks_cons_iff]
      refine ⟨fun parts => ?_, fun parts => ?_⟩
      · rcases parts with ⟨front, rest, rank, rfl, frame, opened, next, tail⟩
        obtain ⟨row, ordered, allOpened⟩ := ih.mp tail
        exact ⟨.cons frame row, ⟨rank, next, ordered⟩, List.forall_mem_cons.mpr ⟨opened, allOpened⟩⟩
      · rcases parts with ⟨row, ⟨rank, next, ordered⟩, allOpened⟩
        obtain ⟨opened, later⟩ := List.forall_mem_cons.mp allOpened
        cases row with
        | cons frame row => exact ⟨_, _, rank, rfl, frame, opened, next, ih.mpr ⟨row, ordered, later⟩⟩

theorem Spells.of_decode {file : Bytes} {m : Module} (run : decode file = .ok m) :
    Spells file m := by
  unfold decode at run
  split at run
  · rename_i headed
    split at run
    · cases run
    · rename_i sections sectionsRead
      cases run
      obtain ⟨row, ordered, opened⟩ := readSections_ok_iff.mp sectionsRead
      refine ⟨⟨file.drop header.length, ?_, row⟩, pairwise_zero_ranks_iff.mp ordered, opened⟩
      have split := List.take_append_drop header.length file
      rw [headed] at split
      exact split.symm
  · cases run

theorem Spells.decode {file : Bytes} {m : Module} (spelled : Spells file m) :
    Module.decode file = .ok m := by
  obtain ⟨⟨frames, rfl, row⟩, ordered, opened⟩ := spelled
  have sectionsRead : readSections 0 [] frames = .ok m.sections :=
    readSections_ok_iff.mpr ⟨row, pairwise_zero_ranks_iff.mpr ordered, opened⟩
  unfold Module.decode
  rw [if_pos List.take_left, List.drop_left, sectionsRead]

/-! ## What is read can be written -/

/-- What is written of a module is at least as long as the payload of each of its sections. -/
theorem length_payload_le {m : Module} {x : Section} (member : x ∈ m.sections) :
    x.payload.length ≤ m.encode.length := by
  have part : x.write.length ≤ (m.sections.flatMap Section.write).length :=
    (List.sublist_flatten_of_mem (List.mem_map_of_mem member)).length_le
  rw [Section.write, List.length_cons, List.length_append] at part
  rw [encode, List.length_append]
  omega

/-- A section that was read is short enough for its size to be written. -/
theorem Spells.payload_lt {file : Bytes} {m : Module} (spelled : Spells file m) :
    ∀ x ∈ m.sections, x.payload.length < 2 ^ 32 := by
  intro x member
  rcases spelled.framed with ⟨frames, -, row⟩
  obtain ⟨frame, size, here, -⟩ := row.of_mem member
  exact here.fits

/-- No other section of an ordered module has the kind of a section with a rank. -/
theorem id_ne_of_ordered {sections before after : List Section} {x : Section}
    (ordered : (ranks sections).Pairwise (· < ·)) (split : sections = before ++ x :: after)
    (ranked : x.id.rank?.isSome) :
    ∀ y ∈ before ++ after, y.id ≠ x.id := by
  intro y member same
  obtain ⟨rank, here⟩ := Option.isSome_iff_exists.mp ranked
  have there : y.id.rank? = some rank := same ▸ here
  rw [split, ranks_append, ranks_cons_some here, List.pairwise_append, List.pairwise_cons] at ordered
  rcases ordered with ⟨-, ⟨above, -⟩, across⟩
  rcases List.mem_append.mp member with early | late
  · exact Nat.lt_irrefl rank (across rank (mem_ranks early there) rank List.mem_cons_self)
  · exact Nat.lt_irrefl rank (above rank (mem_ranks late there))

theorem Spells.encode {m : Module}
    (ordered : (ranks m.sections).Pairwise (· < ·)) (opened : ∀ x ∈ m.sections, x.Opens)
    (short : ∀ x ∈ m.sections, x.payload.length < 2 ^ 32) :
    Spells m.encode m := by
  have row : Form.Row Section.Frames (m.sections.flatMap Section.write) m.sections :=
    Form.Row.flatMap fun x member => ⟨_, .ofNat (by decide) (short x member), rfl⟩
  exact ⟨⟨_, rfl, row⟩, ordered, opened⟩

/-- What is written of a module that was read from some file is a binary form of it, too. -/
theorem Spells.rewritten {file : Bytes} {m : Module} (spelled : Spells file m) : Spells m.encode m :=
  .encode spelled.ordered spelled.opened spelled.payload_lt

/-- Exactly the binary forms of a module are read as it. -/
theorem decode_ok_iff_spells {file : Bytes} {m : Module} :
    Module.decode file = .ok m ↔ Spells file m :=
  ⟨Spells.of_decode, Spells.decode⟩

end Module

end Memoryless
