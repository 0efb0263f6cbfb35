import Memoryless.Module.Cursors
import Memoryless.Proofs.BinaryForm

/-!
# Cursors in step

The loop of `Cursors` and its framer count on their own, and what is wrong with a section is found by
reading its size once more. `Stands` is what every turn leaves behind: the loop is before the header, or
behind the frames of the sections it has taken, and the framer has come to the same place. From there one
turn does what `Module.readSections` does with the section that is next (`turns_between`), whichever of the
framer and the loop is first to notice a fault. So the loop never gets stuck, and it ends with what
`Module.decode` makes of the file (`cursors_in_step`).

A code section is where the two go apart: the framer finds it by the number of its bodies alone, and
whether the bodies are there is only asked when the loop passes over them (`turn_short`).
-/

namespace Memoryless

namespace Bytes

theorem slice?_middle (front middle back : Bytes) :
    slice? front.length (front.length + middle.length) (front ++ (middle ++ back)) = some middle := by
  have inside : front.length + middle.length ≤ (front ++ (middle ++ back)).length := by
    rw [List.length_append, List.length_append]
    omega
  rw [slice?, if_pos ⟨Nat.le_add_right _ _, inside⟩, ← List.append_assoc, ← List.length_append,
    List.take_left, List.drop_left]

end Bytes

theorem Leb128.unsignedBits_error_rest {width : Nat} {s : Bytes} {fault : Fault}
    (failed : unsignedBits .u32 width s = .error fault) :
    fault.rest = [] ↔ fault.reason = .endOfInput := by
  fun_induction unsignedBits .u32 width s with
  | case1 => cases failed; simp
  | case3 => cases failed; simp
  | case4 => cases failed; simp
  | case6 width b s _ _ found deeper ih => cases failed; exact ih deeper
  | case2 | case5 | case7 => cases failed

/-- A number whose bytes end too early is blamed on the end of the bytes, and nothing else is. -/
theorem Leb128.u32_error_rest {s : Bytes} {fault : Fault} (failed : u32 s = .error fault) :
    fault.rest = [] ↔ fault.reason = .endOfInput := by
  rcases Reader.bind_error failed with failed | ⟨n, rest, read, impossible⟩
  · exact unsignedBits_error_rest failed
  · cases impossible

theorem SectionId.byte_inj {id other : SectionId} (same : id.byte = other.byte) : id = other :=
  Option.some.inj ((ofByte?_byte id).symm.trans (same ▸ ofByte?_byte other))

theorem SectionId.byte_lt (id : SectionId) : ¬0x80 ≤ id.byte := by
  cases id <;> decide

namespace Reader

variable {s : Bytes} {n : Nat}

theorem bytes_of_short (short : s.length < n) : bytes n s = .error ⟨.endOfInput, s⟩ := by
  have few : (s.take n).length ≠ n := by
    rw [List.length_take]
    omega
  simp only [bytes, if_neg few]

theorem bytes_of_enough (enough : ¬s.length < n) : bytes n s = .ok (s.take n, s.drop n) := by
  have full : (s.take n).length = n := by
    rw [List.length_take]
    omega
  simp only [bytes, if_pos full]

end Reader

namespace Framer

variable {unshown : Reason} {offset : Nat} {id : SectionId} {s contents : Bytes} {size : UInt32}

theorem readFrame_of_size_error {fault : Fault} (failed : Leb128.u32 s = .error fault) :
    readFrame unshown offset (id.byte :: s) = .error fault.reason := by
  unfold readFrame
  dsimp only
  rw [if_neg id.byte_lt, failed]

/-- What the framer makes of a code section. -/
theorem readFrame_code (sized : Leb128.u32 s = .ok (size, contents)) :
    readFrame unshown offset (SectionId.code.byte :: s) =
      match Leb128.u32 contents with
      | .error fault => .error fault.reason
      | .ok (_, left) =>
        if size.toNat < Bytes.offset contents left then .error .endOfInput
        else .ok (.frame SectionId.code.byte (offset + Bytes.offset (SectionId.code.byte :: s) contents)
          (offset + Bytes.offset (SectionId.code.byte :: s) contents + size.toNat)
          (some (size.toNat - Bytes.offset contents left)), left) := by
  unfold readFrame
  dsimp only
  rw [if_neg (SectionId.byte_lt _), sized]
  exact if_pos rfl

/-- What the framer makes of any other section. -/
theorem readFrame_other (notCode : id ≠ .code) (sized : Leb128.u32 s = .ok (size, contents)) :
    readFrame unshown offset (id.byte :: s) =
      match Reader.bytes size.toNat contents with
      | .error fault => .error fault.reason
      | .ok (payload, left) =>
        match Section.opening id payload with
        | .error fault => .error fault.reason
        | .ok _ => .ok (.frame id.byte (offset + Bytes.offset (id.byte :: s) contents)
          (offset + Bytes.offset (id.byte :: s) contents + size.toNat) none, left) := by
  unfold readFrame
  dsimp only
  rw [if_neg (SectionId.byte_lt _), sized]
  dsimp only
  rw [if_neg fun same => notCode (SectionId.byte_inj same)]
  cases Reader.bytes size.toNat contents with
  | error fault => rfl
  | ok pair =>
      dsimp only
      unfold checkPayload
      simp only [SectionId.ofByte?_byte]
      cases Section.opening id pair.1 <;> rfl

/-- A section that does not lack bytes is refused for how it begins, also if the number of bodies of a code
section runs past its end. -/
theorem readFrame_unopened {reason : Reason} (sized : Leb128.u32 s = .ok (size, contents))
    (enough : ¬contents.length < size.toNat)
    (unopened : Section.checkOpening id contents (contents.take size.toNat) (contents.drop size.toNat) =
      .error reason) :
    readFrame unshown offset (id.byte :: s) = .error reason := by
  by_cases isCode : id = .code
  · subst isCode
    rw [Section.checkOpening.eq_1] at unopened
    rw [readFrame_code sized]
    cases counted : Leb128.u32 contents with
    | error found =>
        simp only [counted] at unopened ⊢
        cases unopened
        rfl
    | ok pair =>
        obtain ⟨n, left⟩ := pair
        simp only [counted] at unopened ⊢
        by_cases fewer : left.length < (contents.drop size.toNat).length
        · rw [if_pos fewer] at unopened
          cases unopened
          have past : size.toNat < Bytes.offset contents left := by
            rw [List.length_drop] at fewer
            unfold Bytes.offset
            omega
          exact if_pos past
        · rw [if_neg fewer] at unopened
          cases unopened
  · rw [Section.checkOpening.eq_2 _ _ _ _ isCode] at unopened
    rw [readFrame_other isCode sized, Reader.bytes_of_enough enough]
    cases opening : Section.opening id (contents.take size.toNat) with
    | error found =>
        simp only [opening] at unopened ⊢
        cases unopened
        rfl
    | ok pair =>
        simp only [opening] at unopened
        cases unopened

/-- What the framer finds behind any id. -/
theorem readFrame_ok {b : UInt8} {part : Part} {left : Bytes}
    (found : readFrame unshown offset (b :: s) = .ok (part, left)) :
    left <:+ b :: s ∧ ∃ start stop unread, part = .frame b start stop unread := by
  unfold readFrame at found
  dsimp only at found
  split at found
  · cases found
  · split at found
    · cases found
    · rename_i size contents sized
      have sizeInside := (Leb128.u32_within.rest_suffix sized).trans (List.suffix_cons b s)
      split at found
      · split at found
        · cases found
        · rename_i n behind counted
          split at found
          · cases found
          · cases found
            exact ⟨(Leb128.u32_within.rest_suffix counted).trans sizeInside, _, _, _, rfl⟩
      · split at found
        · cases found
        · rename_i payload behind cutOut
          split at found
          · cases found
          · cases found
            obtain ⟨_, rfl, -⟩ := (Reader.Reads.bytes _).taken cutOut
            exact ⟨(List.suffix_append _ _).trans sizeInside, _, _, _, rfl⟩

variable {size count more payload rest : Bytes}

/-- A code section is found in front of its bodies. -/
theorem readFrame_framed_code {n : Nat} (sized : Leb128.Spells 32 size (count ++ more).length)
    (counts : Leb128.Spells 32 count n) :
    readFrame unshown offset (SectionId.code.byte :: (size ++ (count ++ more ++ rest))) =
      .ok (.frame SectionId.code.byte (offset + (size.length + 1))
        (offset + (size.length + 1) + (count ++ more).length) (some more.length), more ++ rest) := by
  have start : Bytes.offset (SectionId.code.byte :: (size ++ (count ++ more ++ rest)))
      (count ++ more ++ rest) = size.length + 1 :=
    Bytes.offset_append (SectionId.code.byte :: size) _
  have counted := Leb128.u32_accepted counts (more ++ rest)
  have ahead := Bytes.offset_append count (more ++ rest)
  rw [← List.append_assoc] at counted ahead
  have unread : (count ++ more).length - count.length = more.length := by
    rw [List.length_append, Nat.add_sub_cancel_left]
  have inside : ¬(count ++ more).length < count.length := by
    rw [List.length_append]
    omega
  rw [readFrame_code (Leb128.u32_accepted sized _), counted]
  dsimp only
  rw [ahead, sized.toNat_toUInt32, if_neg inside, unread, start]

/-- Any other section is found in front of what follows it. -/
theorem readFrame_framed_other (notCode : id ≠ .code) (sized : Leb128.Spells 32 size payload.length)
    (opened : Section.Opens ⟨id, payload⟩) :
    readFrame unshown offset (id.byte :: (size ++ (payload ++ rest))) =
      .ok (.frame id.byte (offset + (size.length + 1)) (offset + (size.length + 1) + payload.length) none,
        rest) := by
  have start : Bytes.offset (id.byte :: (size ++ (payload ++ rest))) (payload ++ rest) = size.length + 1 :=
    Bytes.offset_append (id.byte :: size) _
  have cutOut : Reader.bytes payload.length (payload ++ rest) = .ok (payload, rest) :=
    (Reader.Reads.bytes _).accepted ⟨rfl, rfl⟩ rest
  obtain ⟨left, opening⟩ := Section.opening_ok_iff.mpr opened
  rw [readFrame_other notCode (Leb128.u32_accepted sized _), sized.toNat_toUInt32, cutOut]
  simp only [opening, start]

end Framer

namespace Cursors

variable {unshown reason : Reason} {front s rest contents : Bytes} {b : UInt8} {id : SectionId}
  {taken : List Section} {rank : Nat}

/-- A framer and a loop that have come to the same place, behind the header. -/
def facing (front rest : Bytes) (taken : List Section) (rank : Nat) : Cursors :=
  ⟨⟨front.length, .frame⟩, rest, taken, rank⟩

theorem not_longer (front rest : Bytes) : ¬(front ++ rest).length < rest.length := by
  rw [List.length_append]
  omega

theorem turn_facing_error (failed : Framer.readFrame unshown front.length rest = .error reason) :
    turn unshown (front ++ rest) (facing front rest taken rank) =
      .error (refuse (front ++ rest) front.length reason) := by
  unfold turn facing
  dsimp only
  rw [if_neg (not_longer front rest), Bytes.offset_append]
  simp only [Framer.parse, failed, Except.map]

theorem turn_facing_ok {left : Bytes} {byte : UInt8} {start stop : Nat} {unread : Option Nat}
    (found : Framer.readFrame unshown front.length rest = .ok (.frame byte start stop unread, left))
    (inside : left <:+ rest) (known : SectionId.ofByte? byte = some id) :
    turn unshown (front ++ rest) (facing front rest taken rank) =
      (pass ⟨⟨front.length + Bytes.offset rest left, (Part.frame byte start stop unread).after⟩, left, taken,
        rank⟩ unread (.refused (.misframed front.length (.truncated id)))) >>= fun c =>
          c.push (front ++ rest) id start stop (.refused (.misframed front.length (.outOfOrder id)))
            (.refused (.misframed front.length (.truncated id))) := by
  unfold turn facing
  dsimp only
  rw [if_neg (not_longer front rest), Bytes.offset_append]
  simp only [Framer.parse, found, Except.map, Framer.advance, Bytes.from?_offset inside, known]

/-- Passing over the rest of a code section moves framer and loop by the same number of bytes. -/
theorem pass_code {offset n : Nat} {truncated : Stop} :
    pass ⟨⟨offset, .code n⟩, s, taken, rank⟩ (some n) truncated =
      match Bytes.from? n s with
      | none => .error truncated
      | some rest => .ok ⟨⟨offset + n, .frame⟩, rest, taken, rank⟩ :=
  rfl

theorem push_of_slice {c : Cursors} {file payload : Bytes} {start stop : Nat} {outOfOrder truncated : Stop}
    (cut : Bytes.slice? start stop file = some payload) :
    c.push file id start stop outOfOrder truncated =
      match Module.nextRank? c.rank id with
      | none => .error outOfOrder
      | some rank => .ok { c with taken := ⟨id, payload⟩ :: c.taken, rank } := by
  unfold push
  cases Module.nextRank? c.rank id with
  | none => rfl
  | some rank => simp only [cut]

theorem refuse_unknown (unknown : SectionId.ofByte? b = none) :
    refuse (front ++ b :: s) front.length reason = .refused (.misframed front.length (.unknownId b)) := by
  unfold refuse
  rw [List.getElem?_append_right (Nat.le_refl _), Nat.sub_self, List.getElem?_cons_zero]
  simp only [unknown]

theorem refuse_known (known : SectionId.ofByte? b = some id) :
    refuse (front ++ b :: s) front.length reason =
      .refused (.misframed front.length (frameFault (front ++ b :: s) id s reason)) := by
  have behind : Bytes.from? (front.length + 1) (front ++ b :: s) = some s := by
    have split := Bytes.from?_length (front ++ [b]) s
    rwa [List.length_append, List.length_singleton, List.append_assoc, List.singleton_append] at split
  unfold refuse
  rw [List.getElem?_append_right (Nat.le_refl _), Nat.sub_self, List.getElem?_cons_zero]
  simp only [known, behind]

/-- Behind an id that is not known the framer may find a section or not. -/
theorem turn_unknown (unknown : SectionId.ofByte? b = none) :
    turn unshown (front ++ b :: s) (facing front (b :: s) taken rank) =
      .error (.refused (.misframed front.length (.unknownId b))) := by
  cases found : Framer.readFrame unshown front.length (b :: s) with
  | error reason => rw [turn_facing_error found, refuse_unknown unknown]
  | ok pair =>
      obtain ⟨part, left⟩ := pair
      obtain ⟨inside, start, stop, unread, rfl⟩ := Framer.readFrame_ok found
      unfold turn facing
      dsimp only
      rw [if_neg (not_longer front (b :: s)), Bytes.offset_append]
      simp only [Framer.parse, found, Except.map, Framer.advance, Bytes.from?_offset inside, unknown]

theorem turn_end : turn unshown front (facing front [] taken rank) = .error (.done taken.reverse) := by
  have whole := not_longer front []
  rw [List.append_nil] at whole
  unfold turn facing
  dsimp only
  rw [if_neg whole]
  rfl

/-! ## One section -/

/-- What is wrong with the size is found again when it is read once more. -/
theorem frameFault_size {file : Bytes} {fault : Fault} (failed : Leb128.u32 s = .error fault)
    (inside : s <:+ file) :
    frameFault file id s reason =
      if fault.reason = .endOfInput then .truncated id else .malformedSize id := by
  have place := (Leb128.u32_within.fault_suffix failed).trans inside
  have atEnd : file.length ≤ Bytes.offset file fault.rest ↔ fault.rest = [] := by
    have shorter := place.length_le
    unfold Bytes.offset
    rw [← List.length_eq_zero_iff]
    omega
  unfold frameFault
  rw [failed]
  simp only [atEnd, Leb128.u32_error_rest failed]

theorem frameFault_payload {file : Bytes} {size : UInt32} (sized : Leb128.u32 s = .ok (size, contents)) :
    frameFault file id s reason =
      if contents.length < size.toNat then .truncated id else Section.openingFault id reason := by
  unfold frameFault
  rw [sized]

theorem turn_refused {size : UInt32} (sized : Leb128.u32 s = .ok (size, contents))
    (failed : Framer.readFrame unshown front.length (id.byte :: s) = .error reason) :
    turn unshown (front ++ id.byte :: s) (facing front (id.byte :: s) taken rank) =
      .error (.refused (.misframed front.length
        (if contents.length < size.toNat then .truncated id else Section.openingFault id reason))) := by
  rw [turn_facing_error failed, refuse_known (SectionId.ofByte?_byte id), frameFault_payload sized]

/-- A section that lacks bytes. The framer itself refuses it, unless it is a code section whose number of
bodies can be read: then the loop is first to notice, when it passes over the rest. -/
theorem turn_short {size : UInt32} (sized : Leb128.u32 s = .ok (size, contents))
    (short : contents.length < size.toNat) :
    turn unshown (front ++ id.byte :: s) (facing front (id.byte :: s) taken rank) =
      .error (.refused (.misframed front.length (.truncated id))) := by
  by_cases isCode : id = .code
  · subst isCode
    have code : Framer.readFrame unshown front.length (SectionId.code.byte :: s) = _ :=
      Framer.readFrame_code sized
    cases counted : Leb128.u32 contents with
    | error found =>
        rw [counted] at code
        rw [turn_refused sized code, if_pos short]
    | ok pair =>
        obtain ⟨n, left⟩ := pair
        rw [counted] at code
        dsimp only at code
        have within := Leb128.u32_within.rest_suffix counted
        by_cases past : size.toNat < Bytes.offset contents left
        · rw [if_pos past] at code
          rw [turn_refused sized code, if_pos short]
        · rw [if_neg past] at code
          have inside := (within.trans (Leb128.u32_within.rest_suffix sized)).trans
            (List.suffix_cons SectionId.code.byte s)
          have lacking : left.length < size.toNat - Bytes.offset contents left := by
            have shorter := within.length_le
            unfold Bytes.offset at past ⊢
            omega
          rw [turn_facing_ok code inside (SectionId.ofByte?_byte .code), Part.after, pass_code,
            Bytes.from?_eq_none lacking]
          rfl
  · have refusal : Framer.readFrame unshown front.length (id.byte :: s) = .error .endOfInput := by
      rw [Framer.readFrame_other isCode sized, Reader.bytes_of_short short]
    rw [turn_refused sized refusal, if_pos short]

/-- A section that cannot be framed. -/
theorem turn_facing_read_error {fault : FrameFault} (failed : Section.read id s = .error fault) :
    turn unshown (front ++ id.byte :: s) (facing front (id.byte :: s) taken rank) =
      .error (.refused (.misframed front.length fault)) := by
  unfold Section.read at failed
  cases sized : Leb128.u32 s with
  | error found =>
      rw [sized] at failed
      cases failed
      have inside : s <:+ front ++ id.byte :: s :=
        (List.suffix_cons _ s).trans (List.suffix_append front _)
      rw [turn_facing_error (Framer.readFrame_of_size_error sized), refuse_known (SectionId.ofByte?_byte id),
        frameFault_size sized inside]
  | ok pair =>
      obtain ⟨size, contents⟩ := pair
      rw [sized] at failed
      dsimp only at failed
      by_cases short : contents.length < size.toNat
      · rw [Reader.bytes_of_short short] at failed
        cases failed
        exact turn_short sized short
      · rw [Reader.bytes_of_enough short] at failed
        dsimp only at failed
        split at failed
        · rename_i reason unopened
          cases failed
          rw [turn_refused sized (Framer.readFrame_unopened sized short unopened), if_neg short]
        · cases failed

/-- Between what is in front of a section and what follows it stand its id, its size and its payload. -/
theorem slice?_payload {size payload : Bytes} :
    Bytes.slice? (front.length + (size.length + 1)) (front.length + (size.length + 1) + payload.length)
      (front ++ id.byte :: (size ++ (payload ++ rest))) = some payload := by
  have cut := Bytes.slice?_middle (front ++ id.byte :: size) payload rest
  rwa [List.length_append, List.length_cons, List.append_assoc, List.cons_append] at cut

/-- A section that is framed. -/
theorem turn_framed {size payload : Bytes} (sized : Leb128.Spells 32 size payload.length)
    (opened : Section.Opens ⟨id, payload⟩) :
    turn unshown (front ++ id.byte :: (size ++ (payload ++ rest)))
        (facing front (id.byte :: (size ++ (payload ++ rest))) taken rank) =
      match Module.nextRank? rank id with
      | none => .error (.refused (.misframed front.length (.outOfOrder id)))
      | some next =>
        .ok ⟨⟨front.length + (size.length + 1) + payload.length, .frame⟩, rest,
          ⟨id, payload⟩ :: taken, next⟩ := by
  by_cases isCode : id = .code
  · subst isCode
    obtain ⟨count, n, more, counts, rfl⟩ := opened
    have split : SectionId.code.byte :: (size ++ (count ++ more ++ rest)) =
        (SectionId.code.byte :: size ++ count) ++ (more ++ rest) := by
      simp only [List.cons_append, List.append_assoc]
    have ahead : Bytes.offset (SectionId.code.byte :: (size ++ (count ++ more ++ rest))) (more ++ rest) =
        size.length + 1 + count.length := by
      rw [split, Bytes.offset_append, List.length_append, List.length_cons]
    rw [turn_facing_ok (Framer.readFrame_framed_code sized counts) ⟨_, split.symm⟩
      (SectionId.ofByte?_byte .code), ahead, Part.after, pass_code, Bytes.from?_length more rest]
    refine (push_of_slice slice?_payload).trans ?_
    simp only [List.length_append, Nat.add_assoc]
  · have split : id.byte :: (size ++ (payload ++ rest)) = (id.byte :: size ++ payload) ++ rest := by
      simp only [List.cons_append, List.append_assoc]
    have ahead : Bytes.offset (id.byte :: (size ++ (payload ++ rest))) rest =
        size.length + 1 + payload.length := by
      rw [split, Bytes.offset_append, List.length_append, List.length_cons]
    rw [turn_facing_ok (Framer.readFrame_framed_other isCode sized opened) ⟨_, split.symm⟩
      (SectionId.ofByte?_byte id), ahead, ← Nat.add_assoc]
    exact push_of_slice slice?_payload

/-! ## Turns -/

/-- What a turn that goes on does: it passes the header, or it takes the section that is next, whose
payload stands between its size and the place reached. -/
inductive Moves (file : Bytes) (c : Cursors) : Cursors → Prop
  | header {next : Cursors} :
    c.framer.state = .header → c.rest = header ++ next.rest →
    next.framer.offset = header.length → next.taken = c.taken → Moves file c next
  | frame {next : Cursors} {x : Section} {size : Bytes} :
    Leb128.Spells 32 size x.payload.length →
    c.rest = x.id.byte :: (size ++ (x.payload ++ next.rest)) →
    Bytes.slice? (c.framer.offset + (size.length + 1)) next.framer.offset file = some x.payload →
    next.taken = x :: c.taken → Moves file c next

theorem Moves.shorter {file : Bytes} {c next : Cursors} (moves : Moves file c next) :
    next.rest.length < c.rest.length := by
  cases moves with
  | header _ split =>
      rw [split, List.length_append]
      exact Nat.lt_add_of_pos_left (by decide)
  | frame _ split =>
      rw [split, List.length_cons, List.length_append, List.length_append]
      omega

/-- Where the loop stands: before the header, or behind the frames of the sections that it has taken. What
is still to be read decides what the file is read as. -/
inductive Stands (file : Bytes) : Cursors → Prop
  | start : file.take header.length = header → Stands file (.start file)
  | between {frames rest : Bytes} {taken : List Section} {rank : Nat} :
    file = (header ++ frames) ++ rest → Form.Row Section.Frames frames taken.reverse →
    Module.readSections 0 [] (file.drop header.length) = Module.readSections rank taken rest →
    Stands file (facing (header ++ frames) rest taken rank)

/-- The loop ends with what the file is read as, and not because it cannot go on. -/
structure Settles (file : Bytes) (stop : Stop) : Prop where
  answer : stop.answer? = some (Module.decode file)
  ne_stuck : stop ≠ .stuck
  ne_malformedHeader : stop ≠ .refused .malformedHeader

/-- What a turn can come to. -/
inductive Turns (file : Bytes) (c : Cursors) : Except Stop Cursors → Prop
  | onward {next : Cursors} : Moves file c next → Stands file next → Turns file c (.ok next)
  | stop {stop : Stop} : Settles file stop → Turns file c (.error stop)

variable {file frames : Bytes} {c next : Cursors} {stop : Stop}

theorem headed_of_split (split : file = (header ++ frames) ++ rest) : file.take header.length = header := by
  rw [split, List.append_assoc, List.take_left]

theorem settles_refused {fault : FrameFault} (split : file = (header ++ frames) ++ rest)
    (failed : Module.readSections 0 [] (file.drop header.length) = .error (fault, rest)) :
    Settles file (.refused (.misframed (header ++ frames).length fault)) := by
  refine ⟨?_, nofun, nofun⟩
  unfold Module.decode
  rw [if_pos (headed_of_split split), failed]
  dsimp only [Stop.answer?]
  rw [split, Bytes.offset_append]

theorem settles_done {sections : List Section} (split : file = (header ++ frames) ++ rest)
    (finished : Module.readSections 0 [] (file.drop header.length) = .ok sections) :
    Settles file (.done sections) := by
  refine ⟨?_, nofun, nofun⟩
  unfold Module.decode
  rw [if_pos (headed_of_split split), finished]
  rfl

theorem turn_start (rest : Bytes) :
    turn unshown (header ++ rest) (.start (header ++ rest)) = .ok (facing header rest [] 0) := by
  unfold turn start Framer.start
  dsimp only
  rw [if_neg (Nat.lt_irrefl _)]
  simp only [Framer.parse, List.take_left, if_pos, Framer.advance, List.drop_left, Bytes.offset_append,
    Bytes.from?_length, Nat.zero_add]
  rfl

theorem turns_start (headed : file.take header.length = header) :
    Turns file (.start file) (turn unshown file (.start file)) := by
  obtain ⟨rest, rfl⟩ : ∃ rest, file = header ++ rest :=
    ⟨file.drop header.length, by
      conv_lhs => rw [← List.take_append_drop header.length file, headed]⟩
  rw [turn_start]
  have stands : Stands (header ++ rest) (facing (header ++ []) rest [] 0) :=
    .between (by rw [List.append_nil]) .nil (by rw [List.drop_left])
  rw [List.append_nil] at stands
  exact .onward (.header rfl rfl rfl rfl) stands

/-- With one more section taken, the loop stands behind one more frame. -/
theorem turns_onward {x : Section} {size behind : Bytes} {reached : Nat}
    (split : file = (header ++ frames) ++ x.id.byte :: (size ++ (x.payload ++ behind)))
    (row : Form.Row Section.Frames frames taken.reverse) (sized : Leb128.Spells 32 size x.payload.length)
    (later : Module.readSections 0 [] (file.drop header.length) =
      Module.readSections reached (x :: taken) behind) :
    Turns file (facing (header ++ frames) (x.id.byte :: (size ++ (x.payload ++ behind))) taken rank)
      (.ok ⟨⟨(header ++ frames).length + (size.length + 1) + x.payload.length, .frame⟩, behind, x :: taken,
        reached⟩) := by
  refine .onward (.frame sized rfl (by rw [split]; exact slice?_payload) rfl) ?_
  have frame : x.Frames (x.id.byte :: (size ++ x.payload)) := ⟨size, sized, rfl⟩
  have grown : Form.Row Section.Frames (frames ++ (x.id.byte :: (size ++ x.payload) ++ []))
      (x :: taken).reverse := by
    rw [List.reverse_cons]
    exact row.append (.cons frame .nil)
  rw [List.append_nil] at grown
  have longer : file = (header ++ (frames ++ x.id.byte :: (size ++ x.payload))) ++ behind := by
    rw [split]
    simp only [List.append_assoc, List.cons_append]
  have place : (header ++ frames).length + (size.length + 1) + x.payload.length =
      (header ++ (frames ++ x.id.byte :: (size ++ x.payload))).length := by
    simp only [List.length_append, List.length_cons]
    omega
  rw [place]
  exact .between longer grown later

/-- Between two sections the loop takes the same turn as the reader of sections, whatever is next. -/
theorem turns_between (split : file = (header ++ frames) ++ rest)
    (row : Form.Row Section.Frames frames taken.reverse)
    (later : Module.readSections 0 [] (file.drop header.length) = Module.readSections rank taken rest) :
    Turns file (facing (header ++ frames) rest taken rank)
      (turn unshown file (facing (header ++ frames) rest taken rank)) := by
  cases rest with
  | nil =>
      have finished := settles_done split (later.trans (by rw [Module.readSections]))
      rw [List.append_nil] at split
      rw [split, turn_end, ← split]
      exact .stop finished
  | cons b s =>
      rw [Module.readSections_cons] at later
      cases known : SectionId.ofByte? b with
      | none =>
          rw [known] at later
          rw [split, turn_unknown known, ← split]
          exact .stop (settles_refused split later)
      | some id =>
          obtain rfl := SectionId.byte_of_ofByte? known
          rw [known] at later
          dsimp only at later
          cases framed : Section.read id s with
          | error fault =>
              rw [framed] at later
              rw [split, turn_facing_read_error framed, ← split]
              exact .stop (settles_refused split later)
          | ok pair =>
              obtain ⟨x, behind⟩ := pair
              rw [framed] at later
              dsimp only at later
              obtain ⟨rfl, opened, size, sized, rfl⟩ := Section.read_ok_iff.mp framed
              rw [split, turn_framed sized opened, ← split]
              cases ranked : Module.nextRank? rank x.id with
              | none =>
                  rw [ranked] at later
                  exact .stop (settles_refused split later)
              | some reached =>
                  rw [ranked] at later
                  exact turns_onward split row sized later

theorem Stands.turns (stands : Stands file c) : Turns file c (turn unshown file c) := by
  cases stands with
  | start headed => exact turns_start headed
  | between split row later => exact turns_between split row later

theorem Reached.stands (reached : Reached unshown file c) : Stands file c := by
  induction reached with
  | start headed => exact .start headed
  | turn _ turned ih =>
      have turns : Turns file _ (Cursors.turn unshown file _) := ih.turns
      rw [turned] at turns
      cases turns with
      | onward _ stands => exact stands

theorem Reached.moves (reached : Reached unshown file c) (turned : Cursors.turn unshown file c = .ok next) :
    Moves file c next := by
  have turns : Turns file c (Cursors.turn unshown file c) := reached.stands.turns
  rw [turned] at turns
  cases turns with
  | onward moves _ => exact moves

theorem Reached.settles (reached : Reached unshown file c)
    (stops : Cursors.turn unshown file c = .error stop) : Settles file stop := by
  have turns : Turns file c (Cursors.turn unshown file c) := reached.stands.turns
  rw [stops] at turns
  cases turns with
  | stop settles => exact settles

/-- The bytes that are left get fewer with every turn, so one turn is the last. -/
theorem Reached.exists_stop {c : Cursors} (reached : Reached unshown file c) :
    ∃ last stop, Reached unshown file last ∧ Cursors.turn unshown file last = .error stop := by
  cases turned : Cursors.turn unshown file c with
  | error stop => exact ⟨c, stop, reached, turned⟩
  | ok next => exact (reached.turn turned).exists_stop
termination_by c.rest.length
decreasing_by exact (reached.moves turned).shorter

/-- The loop stands where its framer does: at the start of the file, at the end of the header, or at the
end of a frame. -/
structure InStep (file : Bytes) (c : Cursors) : Prop where
  offset : c.framer.offset = file.length - c.rest.length
  inside : c.framer.offset ≤ file.length
  rest : c.rest = file.drop c.framer.offset
  boundary : c = .start file ∨
    c.framer.state = .frame ∧ ∃ frames, file.take c.framer.offset = header ++ frames ∧
      Form.Row Section.Frames frames c.taken.reverse

theorem Stands.inStep (stands : Stands file c) : InStep file c := by
  cases stands with
  | start =>
      exact ⟨(Nat.sub_self _).symm, Nat.zero_le _, rfl, .inl rfl⟩
  | @between frames rest taken rank split row =>
      refine ⟨?_, ?_, ?_, .inr ⟨rfl, frames, ?_, row⟩⟩
      · rw [split]
        exact (Bytes.offset_append _ rest).symm
      · rw [split, List.length_append]
        exact Nat.le_add_right _ _
      · rw [split]
        exact List.drop_left.symm
      · rw [split]
        exact List.take_left

/-- The framer and the loop stay in step in every file, whatever the causes are that are not shown. A turn
that goes on passes at least a byte, and a section is taken with exactly the bytes between its size and
the place where the next turn starts. The other turns end the loop with what the file is read as, so
nothing is cut outside of the bytes or asked of the framer in vain, and no section is blamed for the
header. A loop that is entered comes to its end. -/
theorem cursors_in_step (unshown : Reason) (file : Bytes) :
    (∀ c, Reached unshown file c → InStep file c ∧
      match turn unshown file c with
      | .ok next => next.rest.length < c.rest.length ∧ Moves file c next
      | .error stop =>
        stop ≠ .stuck ∧ stop ≠ .refused .malformedHeader ∧ stop.answer? = some (Module.decode file)) ∧
      (file.take header.length = header →
        ∃ c stop, Reached unshown file c ∧ turn unshown file c = .error stop) := by
  refine ⟨fun c reached => ⟨reached.stands.inStep, ?_⟩, fun headed => ?_⟩
  · cases turned : turn unshown file c with
    | ok next =>
        have moves := reached.moves turned
        exact ⟨moves.shorter, moves⟩
    | error stop =>
        have settles := reached.settles turned
        exact ⟨settles.ne_stuck, settles.ne_malformedHeader, settles.answer⟩
  · have begun : Reached unshown file (.start file) := .start headed
    exact begun.exists_stop

/-- Behind a code section, whose bodies are passed over by framer and loop on their own. -/
theorem cursors_in_step_code :
    Reached .endOfInput (header ++ [0x0a, 0x84, 0x00, 1, 2, 0, 0x0b])
        ⟨⟨15, .frame⟩, [], [⟨.code, [1, 2, 0, 0x0b]⟩], 12⟩ ∧
      InStep (header ++ [0x0a, 0x84, 0x00, 1, 2, 0, 0x0b])
        ⟨⟨15, .frame⟩, [], [⟨.code, [1, 2, 0, 0x0b]⟩], 12⟩ ∧
      Module.decode (header ++ [0x0a, 0x84, 0x00, 1, 2, 0, 0x0b]) =
        .ok ⟨[⟨.code, [1, 2, 0, 0x0b]⟩]⟩ := by
  have passed : turn .endOfInput (header ++ [0x0a, 0x84, 0x00, 1, 2, 0, 0x0b])
      (.start (header ++ [0x0a, 0x84, 0x00, 1, 2, 0, 0x0b])) =
      .ok ⟨⟨8, .frame⟩, [0x0a, 0x84, 0x00, 1, 2, 0, 0x0b], [], 0⟩ := by
    rfl
  have taken : turn .endOfInput (header ++ [0x0a, 0x84, 0x00, 1, 2, 0, 0x0b])
      ⟨⟨8, .frame⟩, [0x0a, 0x84, 0x00, 1, 2, 0, 0x0b], [], 0⟩ =
      .ok ⟨⟨15, .frame⟩, [], [⟨.code, [1, 2, 0, 0x0b]⟩], 12⟩ := by
    rfl
  have reached := ((Reached.start rfl).turn passed).turn taken
  obtain ⟨inStep, ended⟩ := (cursors_in_step .endOfInput _).1 _ reached
  exact ⟨reached, inStep, (Option.some.inj ended.2.2).symm⟩

end Cursors

end Memoryless
