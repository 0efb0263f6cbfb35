import Memoryless.Proofs.BinaryForm

/-!
# Why a file is not a binary module

`Module.Spells` is the grammar of the files that are read; this module is about the others. Why no number
stands at a place is said by `Leb128.Misspells`, why a payload does not open by `Section.Misopens`, and why
no frame stands at a place by `Section.Misframes`. `Module.Misread` adds what is decided outside of the
frame: an id byte that stands for nothing, and a rank that the sections before have passed already.

`Module.decode_diagnosis` says that a file that begins with the header is refused for what is wrong at the
place where the longest binary module at its front ends, and at the offset of that place.
-/

namespace Memoryless

namespace Reader

/-! ## Readings that fail -/

variable {α β : Type} {r : Reader α} {s : Bytes} {reason : Reason}

/-- The reading fails for this reason, whatever place is blamed. -/
def Fails (r : Reader α) (s : Bytes) (reason : Reason) : Prop :=
  ∃ place, r s = .error ⟨reason, place⟩

theorem fails_of_error {fault : Fault} (run : r s = .error fault) : r.Fails s fault.reason :=
  ⟨fault.rest, run⟩

theorem bind_fails_iff {f : α → Reader β} :
    (r >>= f).Fails s reason ↔
      r.Fails s reason ∨ ∃ a rest, r s = .ok (a, rest) ∧ (f a).Fails rest reason := by
  unfold Fails
  cases first : r s with
  | error fault => simp [Bind.bind, StateT.bind, Except.bind, first]
  | ok pair =>
      obtain ⟨a, rest⟩ := pair
      simp [Bind.bind, StateT.bind, Except.bind, first]

theorem map_fails_iff {g : α → β} : (g <$> r).Fails s reason ↔ r.Fails s reason := by
  have bound : (g <$> r).Fails s reason ↔
      r.Fails s reason ∨ ∃ a rest, r s = .ok (a, rest) ∧ (pure (g a) : Reader β).Fails rest reason :=
    bind_fails_iff (f := fun a => pure (g a))
  rw [bound, or_iff_left]
  rintro ⟨a, rest, -, place, failed⟩
  cases failed

theorem finish_fails_iff {after : Reason} :
    (finish after).Fails s reason ↔ s ≠ [] ∧ reason = after := by
  unfold Fails
  cases s with
  | nil => simp [finish]
  | cons b s => simp [finish, eq_comm]

theorem bytes_fails_iff {n : Nat} :
    (bytes n).Fails s reason ↔ s.length < n ∧ reason = .endOfInput := by
  unfold Fails bytes
  by_cases enough : n ≤ s.length
  · simp [enough, Nat.not_lt.mpr enough]
  · simp [enough, Nat.lt_of_not_le enough, eq_comm]

end Reader

namespace Leb128

/-! ## Numbers -/

/-- What is wrong with a last byte that has more bits than are left for it. -/
def overrun (format : IntegerFormat) (last : UInt8) : Reason :=
  if last.toNat < 128 then .integerTooLarge format else .integerTooLong format

/-- Why no number of at most `width` bits stands at the front: the bytes end before it does, or the last
byte it may have says more than the `width % 7` bits that are left for it. -/
inductive Misspells (format : IntegerFormat) (width : Nat) : Bytes → Reason → Prop
  | cut {s : Bytes} :
    s.length ≤ width / 7 → (∀ c ∈ s, 128 ≤ c.toNat) → Misspells format width s .endOfInput
  | last {front more : Bytes} {b : UInt8} :
    front.length = width / 7 → (∀ c ∈ front, 128 ≤ c.toNat) → 2 ^ (width % 7) ≤ b.toNat →
    Misspells format width (front ++ b :: more) (overrun format b)

variable {format : IntegerFormat} {width : Nat} {b : UInt8} {s : Bytes} {reason : Reason}

theorem misspells_nil_iff : Misspells format width [] reason ↔ reason = .endOfInput := by
  refine ⟨fun wrong => ?_, fun same => ?_⟩
  · generalize empty : ([] : Bytes) = s at wrong
    cases wrong with
    | cut => rfl
    | last => simp at empty
  · rw [same]
    exact .cut (Nat.zero_le _) (List.forall_mem_nil _)

/-- The last byte that the width allows. -/
theorem misspells_last_iff (narrow : width < 7) :
    Misspells format width (b :: s) reason ↔ 2 ^ width ≤ b.toNat ∧ reason = overrun format b := by
  have none : width / 7 = 0 := Nat.div_eq_of_lt narrow
  have all : width % 7 = width := Nat.mod_eq_of_lt narrow
  refine ⟨fun wrong => ?_, fun parts => ?_⟩
  · generalize whole : b :: s = t at wrong
    cases wrong with
    | cut short => rw [← whole, none] at short; cases short
    | last full _ large =>
        obtain rfl := List.eq_nil_of_length_eq_zero (full.trans none)
        cases whole
        exact ⟨all ▸ large, rfl⟩
  · rcases parts with ⟨large, rfl⟩
    have first : Misspells format width ([] ++ b :: s) (overrun format b) :=
      .last none.symm (List.forall_mem_nil _) (all.symm ▸ large)
    exact first

/-- A byte after which the width allows another. -/
theorem misspells_more_iff (wide : 7 ≤ width) :
    Misspells format width (b :: s) reason ↔
      128 ≤ b.toNat ∧ Misspells format (width - 7) s reason := by
  have fewer : width / 7 = (width - 7) / 7 + 1 := by omega
  have same : (width - 7) % 7 = width % 7 := by omega
  refine ⟨fun wrong => ?_, fun parts => ?_⟩
  · generalize whole : b :: s = t at wrong
    cases wrong with
    | cut short goesOn =>
        rw [← whole] at short goesOn
        rw [List.length_cons] at short
        obtain ⟨first, later⟩ := List.forall_mem_cons.mp goesOn
        exact ⟨first, .cut (by omega) later⟩
    | @last front more c full goesOn large =>
        cases front with
        | nil => rw [List.length_nil] at full; omega
        | cons d front =>
            cases whole
            rw [List.length_cons] at full
            obtain ⟨first, later⟩ := List.forall_mem_cons.mp goesOn
            exact ⟨first, .last (by omega) later (same ▸ large)⟩
  · rcases parts with ⟨first, wrong⟩
    cases wrong with
    | cut short goesOn =>
        refine .cut ?_ (List.forall_mem_cons.mpr ⟨first, goesOn⟩)
        rw [List.length_cons]
        omega
    | @last front more c full goesOn large =>
        have longer : (b :: front).length = width / 7 := by rw [List.length_cons]; omega
        exact .last longer (List.forall_mem_cons.mpr ⟨first, goesOn⟩) (same ▸ large)

theorem unsignedBits_fails_iff :
    (unsignedBits format width).Fails s reason ↔ Misspells format width s reason := by
  induction s generalizing width with
  | nil => simp [Reader.Fails, unsignedBits, misspells_nil_iff, eq_comm]
  | cons b s ih =>
      unfold Reader.Fails
      rw [unsignedBits, Nat.one_shiftLeft]
      by_cases narrow : width < 7
      · rw [misspells_last_iff narrow, if_pos narrow, overrun]
        split
        · rename_i fits
          simp [Nat.not_le.mpr fits]
        · rename_i large
          split <;> simp [Nat.not_lt.mp large, eq_comm]
      · rw [misspells_more_iff (Nat.not_lt.mp narrow), ← ih, if_neg narrow, Reader.Fails]
        split
        · rename_i ends
          simp [Nat.not_le.mpr ends]
        · rename_i goesOn
          rw [and_iff_right (Nat.not_lt.mp goesOn)]
          cases unsignedBits format (width - 7) s with
          | error fault => rfl
          | ok pair => simp

theorem u32_fails_iff : u32.Fails s reason ↔ Misspells .u32 32 s reason := by
  have mapped : u32.Fails s reason ↔ (unsigned .u32).Fails s reason :=
    Reader.map_fails_iff
  rw [mapped]
  exact unsignedBits_fails_iff

end Leb128

namespace Section

/-! ## Frames -/

open Leb128 (Misspells)

/-- Why a payload does not begin as its kind of section asks, unless that is with a name: `rest` follows it
in the file, and is looked at for the number of function bodies only. -/
inductive Misopens (x : Section) (rest : Bytes) : Reason → Prop
  | number {reason : Reason} :
    x.id ≠ .custom → x.id ≠ .code → Misspells .u32 32 x.payload reason → Misopens x rest reason
  | afterNumber {number more : Bytes} {n : Nat} {b : UInt8} :
    x.id = .start ∨ x.id = .dataCount → Leb128.Spells 32 number n →
    x.payload = number ++ b :: more → Misopens x rest (.afterNumber x.id)
  | bodies {reason : Reason} :
    x.id = .code → Misspells .u32 32 (x.payload ++ rest) reason → Misopens x rest reason
  | bodiesPastEnd {count more : Bytes} {n : Nat} :
    x.id = .code → Leb128.Spells 32 count n → x.payload ++ rest = count ++ more →
    x.payload.length < count.length → Misopens x rest .endOfInput

/-- Why no frame of a section stands at a place, given what follows the id byte. -/
inductive Misframes (id : SectionId) : Bytes → FrameFault → Prop
  | sizeCut {s : Bytes} : Misspells .u32 32 s .endOfInput → Misframes id s (.truncated id)
  | sizeMalformed {s : Bytes} {reason : Reason} :
    Misspells .u32 32 s reason → reason ≠ .endOfInput → Misframes id s (.malformedSize id)
  | payloadCut {size s : Bytes} {n : Nat} :
    Leb128.Spells 32 size n → s.length < n → Misframes id (size ++ s) (.truncated id)
  | name {size payload rest : Bytes} :
    Leb128.Spells 32 size payload.length → id = .custom → ¬Opens ⟨id, payload⟩ →
    Misframes id (size ++ (payload ++ rest)) .malformedName
  | opening {size payload rest : Bytes} {reason : Reason} :
    Leb128.Spells 32 size payload.length → id ≠ .custom → ¬Opens ⟨id, payload⟩ →
    Misopens ⟨id, payload⟩ rest reason →
    Misframes id (size ++ (payload ++ rest)) (.malformedPayload id reason)

section Opening

variable {id : SectionId} {payload rest : Bytes} {reason : Reason}

/-- The start section and the data count section. -/
theorem single_fails_iff {s : Bytes} {after : Reason} :
    (do let _ ← Leb128.u32; Reader.finish after : Reader Unit).Fails s reason ↔
      Misspells .u32 32 s reason ∨
        reason = after ∧ ∃ number n b more, Leb128.Spells 32 number n ∧ s = number ++ b :: more := by
  rw [Reader.bind_fails_iff, Leb128.u32_fails_iff]
  apply or_congr_right
  refine ⟨fun parts => ?_, fun parts => ?_⟩
  · rcases parts with ⟨n, left, counted, ended⟩
    obtain ⟨nonempty, rfl⟩ := Reader.finish_fails_iff.mp ended
    obtain ⟨number, rfl, here⟩ := Leb128.u32_reads.taken counted
    obtain ⟨b, more, rfl⟩ := List.exists_cons_of_ne_nil nonempty
    exact ⟨rfl, number, n.toNat, b, more, here, rfl⟩
  · rcases parts with ⟨rfl, number, n, b, more, here, rfl⟩
    exact ⟨_, _, Leb128.u32_accepted here (b :: more),
      Reader.finish_fails_iff.mpr ⟨List.cons_ne_nil b more, rfl⟩⟩

theorem misopens_single_iff (single : id = .start ∨ id = .dataCount) :
    Misopens ⟨id, payload⟩ rest reason ↔
      Misspells .u32 32 payload reason ∨
        reason = .afterNumber id ∧
          ∃ number n b more, Leb128.Spells 32 number n ∧ payload = number ++ b :: more := by
  refine ⟨fun wrong => ?_, fun parts => ?_⟩
  · cases wrong with
    | number _ _ wrong => exact Or.inl wrong
    | @afterNumber number more n b _ here split => exact Or.inr ⟨rfl, number, n, b, more, here, split⟩
    | bodies isCode => cases isCode; rcases single with no | no <;> cases no
    | bodiesPastEnd isCode => cases isCode; rcases single with no | no <;> cases no
  · rcases parts with wrong | ⟨rfl, number, n, b, more, here, split⟩
    · have plain : id ≠ .custom ∧ id ≠ .code := by rcases single with rfl | rfl <;> decide
      exact .number plain.1 plain.2 wrong
    · exact .afterNumber (x := ⟨id, payload⟩) single here split

theorem misopens_count_iff (unnamed : id ≠ .custom) (notCode : id ≠ .code)
    (several : ¬(id = .start ∨ id = .dataCount)) :
    Misopens ⟨id, payload⟩ rest reason ↔ Misspells .u32 32 payload reason := by
  refine ⟨fun wrong => ?_, fun wrong => .number unnamed notCode wrong⟩
  cases wrong with
  | number _ _ wrong => exact wrong
  | afterNumber single => exact absurd single several
  | bodies isCode => exact absurd isCode notCode
  | bodiesPastEnd isCode => exact absurd isCode notCode

theorem opening_fails_iff (unnamed : id ≠ .custom) (notCode : id ≠ .code) :
    (opening id).Fails payload reason ↔ Misopens ⟨id, payload⟩ rest reason := by
  by_cases single : id = .start ∨ id = .dataCount
  · rw [misopens_single_iff single]
    rcases single with rfl | rfl
    · exact single_fails_iff
    · exact single_fails_iff
  · rw [misopens_count_iff unnamed notCode single, ← Leb128.u32_fails_iff]
    have counts : opening id = Leb128.u32.pass := by
      cases id with
      | custom => exact absurd rfl unnamed
      | start => exact absurd (Or.inl rfl) single
      | dataCount => exact absurd (Or.inr rfl) single
      | _ => rfl
    rw [counts]
    exact Reader.map_fails_iff

theorem checkOpening_code_error_iff :
    checkOpening .code (payload ++ rest) payload rest = .error reason ↔
      Misopens ⟨.code, payload⟩ rest reason := by
  rw [checkOpening.eq_1]
  refine ⟨fun run => ?_, fun wrong => ?_⟩
  · split at run
    · rename_i fault failed
      cases run
      exact .bodies rfl (Leb128.u32_fails_iff.mp (Reader.fails_of_error failed))
    · rename_i n left counted
      split at run <;> cases run
      rename_i short
      obtain ⟨count, split, here⟩ := Leb128.u32_reads.taken counted
      have lengths := congrArg List.length split
      rw [List.length_append, List.length_append] at lengths
      exact .bodiesPastEnd (x := ⟨.code, payload⟩) rfl here split (by dsimp only; omega)
  · cases wrong with
    | number _ notCode => exact absurd rfl notCode
    | afterNumber single => rcases single with no | no <;> cases no
    | bodies _ wrong =>
        obtain ⟨place, failed⟩ := Leb128.u32_fails_iff.mpr wrong
        rw [failed]
    | @bodiesPastEnd count more n _ here split short =>
        dsimp only at split short
        have lengths := congrArg List.length split
        rw [List.length_append, List.length_append] at lengths
        rw [split, Leb128.u32_accepted here more]
        exact if_pos (by omega)

theorem checkOpening_error_iff (unnamed : id ≠ .custom) :
    checkOpening id (payload ++ rest) payload rest = .error reason ↔
      Misopens ⟨id, payload⟩ rest reason := by
  by_cases isCode : id = .code
  · subst isCode
    exact checkOpening_code_error_iff
  · rw [← opening_fails_iff unnamed isCode, checkOpening.eq_2 _ _ _ _ isCode, Reader.Fails]
    cases opening id payload with
    | error fault =>
        obtain ⟨found, place⟩ := fault
        simp
    | ok pair => simp

/-- A payload that does not open is refused for some reason, whatever follows it. -/
theorem not_opens_iff (rest : Bytes) :
    ¬Opens ⟨id, payload⟩ ↔
      ∃ reason, checkOpening id (payload ++ rest) payload rest = .error reason := by
  have accepted : checkOpening id (payload ++ rest) payload rest = .ok () ↔ Opens ⟨id, payload⟩ :=
    checkOpening_ok_iff
  rw [← accepted]
  cases checkOpening id (payload ++ rest) payload rest with
  | error reason => exact iff_of_true nofun ⟨reason, rfl⟩
  | ok _ => exact iff_of_false (not_not.mpr rfl) nofun

end Opening

/-- Only how the payload opens is left to be judged once it is cut out of the file. -/
theorem read_of_framed {id : SectionId} {size payload : Bytes}
    (here : Leb128.Spells 32 size payload.length) (rest : Bytes) :
    read id (size ++ (payload ++ rest)) =
      ((checkOpening id (payload ++ rest) payload rest).mapError (openingFault id)).map
        fun _ => (⟨id, payload⟩, rest) := by
  have sizeRead := Leb128.u32_accepted here (payload ++ rest)
  have payloadRead :=
    (Reader.Reads.bytes _).accepted ⟨rfl, here.toNat_toUInt32.symm⟩ rest
  simp only [read, sizeRead, payloadRead]
  cases checkOpening id (payload ++ rest) payload rest <;> rfl

theorem Misframes.of_read {id : SectionId} {s : Bytes} {fault : FrameFault}
    (run : read id s = .error fault) : Misframes id s fault := by
  unfold read at run
  split at run
  · rename_i found failed
    have wrong := Leb128.u32_fails_iff.mp (Reader.fails_of_error failed)
    split at run <;> cases run
    · rename_i ended
      exact .sizeCut (ended ▸ wrong)
    · rename_i ended
      exact .sizeMalformed wrong ended
  · rename_i n contents sizeRead
    obtain ⟨size, rfl, here⟩ := Leb128.u32_reads.taken sizeRead
    split at run
    · rename_i found failed
      cases run
      obtain ⟨short, -⟩ := Reader.bytes_fails_iff.mp (Reader.fails_of_error failed)
      exact .payloadCut here short
    · rename_i _ rest payloadRead
      obtain ⟨payload, rfl, rfl, full⟩ := (Reader.Reads.bytes n.toNat).taken payloadRead
      rw [← full] at here
      split at run <;> cases run
      rename_i reason failed
      have closed : ¬Opens ⟨id, payload⟩ := (not_opens_iff rest).mpr ⟨reason, failed⟩
      unfold openingFault
      split
      · rename_i isCustom
        exact .name here isCustom closed
      · rename_i unnamed
        exact .opening here unnamed closed ((checkOpening_error_iff unnamed).mp failed)

theorem Misframes.read {id : SectionId} {s : Bytes} {fault : FrameFault}
    (wrong : Misframes id s fault) : read id s = .error fault := by
  cases wrong with
  | sizeCut wrong =>
      obtain ⟨place, failed⟩ := Leb128.u32_fails_iff.mpr wrong
      simp only [Section.read, failed, if_pos]
  | sizeMalformed wrong other =>
      obtain ⟨place, failed⟩ := Leb128.u32_fails_iff.mpr wrong
      simp only [Section.read, failed, if_neg other]
  | @payloadCut size contents n here short =>
      have sizeRead := Leb128.u32_accepted here contents
      obtain ⟨place, failed⟩ : (Reader.bytes n.toUInt32.toNat).Fails contents .endOfInput :=
        Reader.bytes_fails_iff.mpr ⟨by rwa [here.toNat_toUInt32], rfl⟩
      simp only [Section.read, sizeRead, failed]
  | @name size payload rest here isCustom closed =>
      obtain ⟨reason, failed⟩ := (not_opens_iff rest).mp closed
      rw [read_of_framed here, failed]
      simp only [Except.mapError, Except.map, openingFault, if_pos isCustom]
  | @opening size payload rest reason here unnamed closed wrong =>
      rw [read_of_framed here, (checkOpening_error_iff unnamed).mpr wrong]
      simp only [Except.mapError, Except.map, openingFault, if_neg unnamed]

theorem read_error_iff {id : SectionId} {s : Bytes} {fault : FrameFault} :
    read id s = .error fault ↔ Misframes id s fault :=
  ⟨Misframes.of_read, Misframes.read⟩

end Section

namespace Module

/-! ## Files -/

/-- The rank reached after some sections, if it was `last` before them. -/
def reached (last : Nat) (sections : List Section) : Nat :=
  (ranks sections).getLastD last

/-- What is wrong at the place after sections that have reached some rank: no kind of section has this id
byte, whatever follows it; or no frame stands there; or a frame does, of a section whose rank comes too
late. -/
inductive Misread (rank : Nat) : Bytes → FrameFault → Prop
  | unknownId {b : UInt8} {s : Bytes} : 14 ≤ b.toNat → Misread rank (b :: s) (.unknownId b)
  | frame {id : SectionId} {s : Bytes} {fault : FrameFault} :
    Section.Misframes id s fault → Misread rank (id.byte :: s) fault
  | outOfOrder {x : Section} {front rest : Bytes} {late : Nat} :
    x.Frames front → x.Opens → x.id.rank? = some late → late ≤ rank →
    Misread rank (front ++ rest) (.outOfOrder x.id)

theorem ofByte?_eq_none_iff {b : UInt8} : SectionId.ofByte? b = none ↔ 14 ≤ b.toNat := by
  refine ⟨fun unknown => ?_, fun large => ?_⟩
  · refine Nat.le_of_not_lt fun small => ?_
    have known : ∀ n < 14, ∃ id ∈ SectionId.all, id.byte.toNat = n := by decide
    obtain ⟨id, -, same⟩ := known b.toNat small
    rw [← UInt8.toNat_inj.mp same, SectionId.ofByte?_byte] at unknown
    cases unknown
  · cases known : SectionId.ofByte? b with
    | none => rfl
    | some id =>
        have small : id.byte.toNat < 14 := by cases id <;> decide
        rw [SectionId.byte_of_ofByte? known] at small
        exact absurd large (Nat.not_le.mpr small)

theorem nextRank?_eq_none_iff {last : Nat} {id : SectionId} :
    nextRank? last id = none ↔ ∃ late, id.rank? = some late ∧ late ≤ last := by
  unfold nextRank?
  cases id.rank? with
  | none => simp
  | some rank => simp

theorem reached_cons {last rank : Nat} {x : Section} {sections : List Section}
    (next : nextRank? last x.id = some rank) :
    reached last (x :: sections) = reached rank sections := by
  unfold nextRank? at next
  unfold reached
  split at next
  · rename_i unranked
    cases next
    rw [ranks_cons_none unranked]
  · rename_i found ranked
    split at next <;> cases next
    rw [ranks_cons_some ranked, List.getLastD_cons]

theorem Misread.ne_nil {rank : Nat} {s : Bytes} {fault : FrameFault} (wrong : Misread rank s fault) :
    s ≠ [] := by
  cases wrong with
  | unknownId => exact List.cons_ne_nil _ _
  | frame => exact List.cons_ne_nil _ _
  | outOfOrder frame =>
      obtain ⟨tail, rfl⟩ := frame.exists_cons
      exact List.cons_ne_nil _ _

theorem Misread.of_readSections {last : Nat} {taken : List Section} {s place : Bytes}
    {fault : FrameFault} (run : readSections last taken s = .error (fault, place)) :
    ∃ frames sections, s = frames ++ place ∧ Form.Row Section.Frames frames sections ∧
      (last :: ranks sections).Pairwise (· < ·) ∧ (∀ x ∈ sections, x.Opens) ∧
      Misread (reached last sections) place fault := by
  -- The first section that is reached is the one to blame, so none was read before it.
  have first : ∀ {last : Nat} {s : Bytes} {fault : FrameFault}, Misread last s fault →
      ∃ frames sections, s = frames ++ s ∧ Form.Row Section.Frames frames sections ∧
        (last :: ranks sections).Pairwise (· < ·) ∧ (∀ x ∈ sections, x.Opens) ∧
        Misread (reached last sections) s fault := by
    intro last s fault wrong
    exact ⟨[], [], rfl, .nil, List.pairwise_singleton .., List.forall_mem_nil _, wrong⟩
  fun_induction readSections last taken s with
  | case1 => cases run
  | case2 last taken b s unknown =>
      cases run
      exact first (.unknownId (ofByte?_eq_none_iff.mp unknown))
  | case3 last taken b s id known found framed =>
      cases run
      rw [← SectionId.byte_of_ofByte? known]
      exact first (.frame (Section.read_error_iff.mp framed))
  | case4 last taken b s id known x rest framed late =>
      cases run
      obtain ⟨rfl, opened, tail, frame, rfl⟩ := Section.read_ok_iff_frames.mp framed
      obtain ⟨rank, ranked, notAbove⟩ := nextRank?_eq_none_iff.mp late
      rw [← SectionId.byte_of_ofByte? known, ← List.cons_append]
      exact first (.outOfOrder frame opened ranked notAbove)
  | case5 last taken b s id known x rest framed rank next ih =>
      obtain ⟨frames, sections, rfl, row, ordered, opened, wrong⟩ := ih run
      obtain ⟨rfl, opens, tail, frame, rfl⟩ := Section.read_ok_iff_frames.mp framed
      refine ⟨_, x :: sections, ?_, .cons frame row, pairwise_ranks_cons_iff.mpr ⟨rank, next, ordered⟩,
        List.forall_mem_cons.mpr ⟨opens, opened⟩, (reached_cons next).symm ▸ wrong⟩
      rw [SectionId.byte_of_ofByte? known]
      simp only [List.cons_append, List.append_assoc]

theorem Misread.readSections_nil {last : Nat} {s : Bytes} {fault : FrameFault}
    (wrong : Misread last s fault) : readSections last [] s = .error (fault, s) := by
  cases wrong with
  | unknownId large =>
      rw [readSections_cons, ofByte?_eq_none_iff.mpr large]
  | frame wrong =>
      rw [readSections_cons, SectionId.ofByte?_byte]
      simp only [Section.read_error_iff.mpr wrong]
  | @outOfOrder x front rest late frame opened ranked notAbove =>
      obtain ⟨tail, rfl⟩ := frame.exists_cons
      have framed : Section.read x.id (tail ++ rest) = .ok (x, rest) :=
        Section.read_ok_iff_frames.mpr ⟨rfl, opened, tail, frame, rfl⟩
      have late := nextRank?_eq_none_iff.mpr ⟨late, ranked, notAbove⟩
      rw [List.cons_append, readSections_cons]
      simp only [SectionId.ofByte?_byte, framed, late]

theorem Misread.readSections {last : Nat} {frames place : Bytes} {sections : List Section}
    {fault : FrameFault} (row : Form.Row Section.Frames frames sections)
    (ordered : (last :: ranks sections).Pairwise (· < ·)) (opened : ∀ x ∈ sections, x.Opens)
    (wrong : Misread (reached last sections) place fault) :
    readSections last [] (frames ++ place) = .error (fault, place) := by
  induction row generalizing last with
  | nil => exact wrong.readSections_nil
  | cons frame row ih =>
      obtain ⟨rank, next, above⟩ := pairwise_ranks_cons_iff.mp ordered
      obtain ⟨opens, later⟩ := List.forall_mem_cons.mp opened
      rw [reached_cons next] at wrong
      rw [List.append_assoc, readSections_frame frame opens next, ih above later wrong]
      rfl

/-- Reading sections fails for what is wrong after the last section that can be read. -/
theorem readSections_error_iff {last : Nat} {s place : Bytes} {fault : FrameFault} :
    readSections last [] s = .error (fault, place) ↔
      ∃ frames sections, s = frames ++ place ∧ Form.Row Section.Frames frames sections ∧
        (last :: ranks sections).Pairwise (· < ·) ∧ (∀ x ∈ sections, x.Opens) ∧
        Misread (reached last sections) place fault := by
  refine ⟨Misread.of_readSections, fun parts => ?_⟩
  rcases parts with ⟨frames, sections, rfl, row, ordered, opened, wrong⟩
  exact wrong.readSections row ordered opened

theorem decode_malformedHeader_iff {file : Bytes} :
    decode file = .error .malformedHeader ↔ ¬header <+: file := by
  rw [List.prefix_iff_eq_take, eq_comm (a := header)]
  unfold decode
  split
  · rename_i headed
    rw [iff_false_right (not_not.mpr headed)]
    split <;> exact nofun
  · rename_i headless
    exact iff_of_true rfl headless

theorem decode_misframed_iff {file : Bytes} {offset : Nat} {fault : FrameFault} :
    decode file = .error (.misframed offset fault) ↔
      ∃ front m rest, file = front ++ rest ∧ front.length = offset ∧ Spells front m ∧
        Misread (reached 0 m.sections) rest fault := by
  refine ⟨fun run => ?_, fun parts => ?_⟩
  · unfold decode at run
    split at run
    · rename_i headed
      split at run
      · rename_i found place failed
        cases run
        obtain ⟨frames, sections, split, row, ordered, opened, wrong⟩ := readSections_error_iff.mp failed
        have whole := List.take_append_drop header.length file
        rw [headed, split, ← List.append_assoc] at whole
        refine ⟨header ++ frames, ⟨sections⟩, place, whole.symm, ?_,
          ⟨⟨frames, rfl, row⟩, pairwise_zero_ranks_iff.mp ordered, opened⟩, wrong⟩
        rw [← whole, Bytes.offset_append]
      · cases run
    · cases run
  · rcases parts with ⟨_, m, rest, rfl, rfl, ⟨⟨frames, rfl, row⟩, ordered, opened⟩, wrong⟩
    have failed : readSections 0 [] (frames ++ rest) = .error (fault, rest) :=
      wrong.readSections row (pairwise_zero_ranks_iff.mpr ordered) opened
    unfold decode
    rw [List.append_assoc, if_pos List.take_left, List.drop_left, failed, ← List.append_assoc]
    simp only [Bytes.offset_append]

/-- A file without the header is refused for that. Any other file that is refused begins with a binary
module, and is refused at the offset where that module ends, for what is wrong with the bytes that
follow. -/
theorem decode_diagnosis (file : Bytes) :
    (decode file = .error .malformedHeader ↔ ¬header <+: file) ∧
      ∀ offset fault, decode file = .error (.misframed offset fault) ↔
        ∃ front m rest, file = front ++ rest ∧ rest ≠ [] ∧ front.length = offset ∧ Spells front m ∧
          Misread (reached 0 m.sections) rest fault := by
  refine ⟨decode_malformedHeader_iff, fun offset fault => ?_⟩
  rw [decode_misframed_iff]
  refine ⟨fun parts => ?_, fun parts => ?_⟩
  · rcases parts with ⟨front, m, rest, split, length, spelled, wrong⟩
    exact ⟨front, m, rest, split, wrong.ne_nil, length, spelled, wrong⟩
  · rcases parts with ⟨front, m, rest, split, -, length, spelled, wrong⟩
    exact ⟨front, m, rest, split, length, spelled, wrong⟩

end Module

end Memoryless
