import Memoryless.Proofs.OpcodeLocation

/-!
# Opcodes that are not assigned

A walk over a body fails closed where an opcode stands that is not assigned: `FunctionBody.Unassigned` says
that the walk comes to such an opcode, in any form, before a use of memory and before the function is closed.
This is told apart from everything else that can be wrong with a body, also from an opcode whose number
cannot be read.

`Module.unknown_exact` says that an unknown opcode is reported exactly for the first body that is not clean,
if the walk over that body comes to one, and then with its byte, its number and its place. No table of memory
instructions has such an opcode. In every other body that is neither clean nor uses a memory, the body is
reported as malformed.
-/

namespace Memoryless

/-- Only the lead bytes are followed by a number. -/
theorem Opcode.Spells.sub_isSome_iff {front : Bytes} {op : Opcode} (here : Spells front op) :
    op.sub.isSome ↔ ∃ page, op.byte = OpcodePage.lead page := by
  cases here with
  | @single b opens =>
      refine iff_of_false nofun ?_
      rintro ⟨page, rfl⟩
      rw [OpcodePage.ofLead?_lead] at opens
      cases opens
  | @numbered page number sub here => exact iff_of_true rfl ⟨page, rfl⟩

namespace MemoryOpcode

/-- The opcode is in none of the tables of memory instructions: not by its byte, and not by its number on the
page that the byte opens. -/
structure Unlisted (op : Opcode) : Prop where
  byte : ofByte? op.byte = none
  number : ∀ page sub, op = .numbered (OpcodePage.lead page) sub → onPage? page sub = none

theorem ofOpcode?_of_unassigned {op : Opcode} (unassigned : op.immediates? = none) : ofOpcode? op = none := by
  have untouched : op.touchesMemory = false := by
    rw [Opcode.touchesMemory, unassigned, Option.any_none]
  rwa [← isSome_ofOpcode?, Option.isSome_eq_false_iff, Option.isNone_iff_eq_none] at untouched

theorem ofByte?_lead (page : OpcodePage) : ofByte? page.lead = none := by
  cases page <;> decide

theorem Unlisted.of_unassigned {front : Bytes} {op : Opcode} (here : Opcode.Spells front op)
    (unassigned : op.immediates? = none) : Unlisted op := by
  have unknown := ofOpcode?_of_unassigned unassigned
  cases here with
  | single => exact ⟨unknown, nofun⟩
  | @numbered page number sub here =>
      refine ⟨ofByte?_lead page, fun other again same => ?_⟩
      rwa [same, ofOpcode?_numbered] at unknown

end MemoryOpcode

/-- Reading an instruction fails for its opcode exactly if one stands there, in any form, that is not
assigned. -/
theorem Instruction.next_unknown_iff {s place : Bytes} {op : Opcode} :
    next s = .error (.unknownOpcode op place) ↔
      place = s ∧ ∃ spelled after, s = spelled ++ after ∧ Opcode.Spells spelled op ∧
        op.immediates? = none := by
  refine ⟨fun run => ?_, fun parts => ?_⟩
  · unfold next at run
    split at run
    · cases run
    · rename_i found after opcodeRead
      split at run
      · rename_i unassigned
        cases run
        obtain ⟨spelled, rfl, here⟩ := Opcode.read_reads.taken opcodeRead
        exact ⟨rfl, spelled, after, rfl, here, unassigned⟩
      · split at run <;> cases run
  · rcases parts with ⟨rfl, spelled, after, rfl, here, unassigned⟩
    simp only [next, Opcode.read_reads.accepted here after, unassigned]

namespace FunctionBody

open Instruction Opcode

/-- The first thing in the body that is not an instruction without need of a memory is this opcode, which is
not assigned, at this offset of the section. -/
def Unassigned (body : FunctionBody) (payload : Bytes) (op : Opcode) (offset : Nat) : Prop :=
  ∃ ops spelled after front, body.Reaches ops (spelled ++ after) ∧
    (∀ earlier ∈ ops, MemoryOpcode.ofOpcode? earlier = none) ∧ StaysOpen 0 ops ∧
    Opcode.Spells spelled op ∧ op.immediates? = none ∧
    payload = front ++ ((spelled ++ after) ++ body.rest) ∧ front.length = offset

variable {body : FunctionBody} {payload before : Bytes} {op : Opcode} {offset : Nat}

theorem Unassigned.spells (unassigned : body.Unassigned payload op offset) :
    ∃ spelled, Opcode.Spells spelled op ∧ op.immediates? = none := by
  rcases unassigned with ⟨_, spelled, _, _, -, -, -, here, unknown, -, -⟩
  exact ⟨spelled, here, unknown⟩

theorem Unassigned.hasOpcodeAt (unassigned : body.Unassigned payload op offset)
    (split : payload = before ++ (body.contents ++ body.rest)) : body.HasOpcodeAt payload op offset := by
  rcases unassigned with ⟨ops, spelled, after, front, reaches, -, -, here, -, whole, rfl⟩
  exact reaches.hasOpcodeAt here split whole

/-! ## One body -/

theorem Stops.of_unknown {depth : Int} {place found : Bytes}
    (stops : Stops depth place (some (.unreadable (.unknownOpcode op found)))) :
    next place = .error (.unknownOpcode op found) := by
  generalize result : some (Finding.unreadable (.unknownOpcode op found)) = finding at stops
  cases stops with
  | missing => cases result
  | unreadable read =>
      cases result
      exact read
  | access => cases result
  | @closed place rest op =>
      cases rest with
      | nil => cases result
      | cons => cases result

theorem finding?_eq_unknown_iff (short : body.contents.length < 2 ^ 32) {other : FunctionBody}
    {place : Bytes} :
    body.finding? = some (other, .unreadable (.unknownOpcode op place)) ↔
      other = body ∧ ∃ ops spelled after, place = spelled ++ after ∧ body.Reaches ops place ∧
        (∀ earlier ∈ ops, MemoryOpcode.ofOpcode? earlier = none) ∧ StaysOpen 0 ops ∧
        Opcode.Spells spelled op ∧ op.immediates? = none := by
  have unknown : inspect body.contents = some (.unreadable (.unknownOpcode op place)) ↔ _ :=
    inspect_eq_iff short fun fault => nofun
  rw [finding?_eq_some_iff, unknown]
  apply and_congr_right
  intro _
  refine ⟨fun parts => ?_, fun parts => ?_⟩
  · rcases parts with ⟨ops, reached, reaches, plain, stays, stops⟩
    obtain ⟨rfl, spelled, after, split, here, unassigned⟩ := next_unknown_iff.mp stops.of_unknown
    exact ⟨ops, spelled, after, split, reaches, plain, stays, here, unassigned⟩
  · rcases parts with ⟨ops, spelled, after, rfl, reaches, plain, stays, here, unassigned⟩
    have read := next_unknown_iff.mpr ⟨rfl, spelled, after, rfl, here, unassigned⟩
    obtain ⟨number, rfl, -⟩ := here.exists_cons
    exact ⟨ops, _, reaches, plain, stays, .unreadable read⟩

end FunctionBody

namespace Verdict

variable {payload : Bytes} {found : Option (FunctionBody × Finding)} {function : UInt32}

theorem ofFinding_eq_unknown_iff {op : Opcode} {offset : Nat} :
    ofFinding payload found = .error (.unknownOpcode op function offset) ↔
      ∃ body place, found = some (body, .unreadable (.unknownOpcode op place)) ∧ function = body.index ∧
        offset = body.offset payload place := by
  unfold ofFinding
  split
  · simp
  · simp
  · rename_i body op place
    refine ⟨fun same => ?_, fun parts => ?_⟩
    · cases same
      exact ⟨body, place, rfl, rfl, rfl⟩
    · rcases parts with ⟨_, _, same, rfl, rfl⟩
      cases same
      rfl
  · simp

theorem ofFinding_eq_malformedBody_iff {offset : Nat} {reason : Reason} :
    ofFinding payload found = .error (.malformedBody function offset reason) ↔
      ∃ body place, found = some (body, .unreadable (.malformed ⟨reason, place⟩)) ∧
        function = body.index ∧ offset = body.faultOffset payload ⟨reason, place⟩ := by
  unfold ofFinding
  split
  · simp
  · simp
  · simp
  · rename_i body fault
    refine ⟨fun same => ?_, fun parts => ?_⟩
    · cases same
      exact ⟨body, fault.rest, rfl, rfl, rfl⟩
    · rcases parts with ⟨_, _, same, rfl, rfl⟩
      cases same
      rfl

theorem ofFinding_malformedBody_iff :
    (∃ offset reason, ofFinding payload found = .error (.malformedBody function offset reason)) ↔
      ∃ body fault, found = some (body, .unreadable (.malformed fault)) ∧ function = body.index := by
  simp only [ofFinding_eq_malformedBody_iff]
  constructor
  · rintro ⟨_, reason, body, place, same, numbered, -⟩
    exact ⟨body, ⟨reason, place⟩, same, numbered⟩
  · rintro ⟨body, ⟨reason, place⟩, same, numbered⟩
    exact ⟨_, reason, body, place, same, numbered, rfl⟩

end Verdict

namespace FunctionBody

variable {body : FunctionBody} {payload before : Bytes} {op : Opcode} {function : UInt32} {offset : Nat}

/-- The verdict that an opcode is unknown, on a body that stands somewhere in the section. -/
theorem verdict_eq_unknown_iff (short : body.contents.length < 2 ^ 32)
    (split : payload = before ++ (body.contents ++ body.rest)) :
    body.verdict payload = .error (.unknownOpcode op function offset) ↔
      function = body.index ∧ body.Unassigned payload op offset := by
  unfold verdict
  rw [Verdict.ofFinding_eq_unknown_iff]
  refine ⟨fun parts => ?_, fun parts => ?_⟩
  · rcases parts with ⟨other, place, found, numbered, counted⟩
    obtain ⟨rfl, ops, spelled, after, rfl, reaches, plain, stays, here, unassigned⟩ :=
      (finding?_eq_unknown_iff short).mp found
    obtain ⟨front, whole⟩ := reaches.stands split
    refine ⟨numbered, ops, spelled, after, front, reaches, plain, stays, here, unassigned, whole, ?_⟩
    rw [counted, offset_eq whole]
  · rcases parts with
      ⟨numbered, ops, spelled, after, front, reaches, plain, stays, here, unassigned, whole, counted⟩
    have found := (finding?_eq_unknown_iff short).mpr
      ⟨rfl, ops, spelled, after, rfl, reaches, plain, stays, here, unassigned⟩
    exact ⟨body, _, found, numbered, by rw [← counted, offset_eq whole]⟩

/-- A body that is not clean is malformed, unless the walk comes to a use of memory or to an unknown
opcode. -/
theorem verdict_malformedBody_iff (short : body.contents.length < 2 ^ 32)
    (split : payload = before ++ (body.contents ++ body.rest)) (unclean : ¬body.Clean) :
    (∃ offset reason, body.verdict payload = .error (.malformedBody body.index offset reason)) ↔
      (∀ opcode offset, ¬body.Uses payload opcode offset) ∧
      ∀ op offset, ¬body.Unassigned payload op offset := by
  refine ⟨fun malformed => ⟨fun opcode offset uses => ?_, fun op offset unassigned => ?_⟩, fun others => ?_⟩
  · rcases malformed with ⟨_, _, malformed⟩
    have used : body.verdict payload = .ok (some ⟨opcode, body.index, offset⟩) :=
      (verdict_eq_use_iff short split).mpr ⟨rfl, uses⟩
    cases malformed.symm.trans used
  · rcases malformed with ⟨_, _, malformed⟩
    cases malformed.symm.trans ((verdict_eq_unknown_iff short split).mpr ⟨rfl, unassigned⟩)
  · unfold verdict
    rw [Verdict.ofFinding_malformedBody_iff]
    cases found : body.finding? with
    | none => exact absurd ((finding?_eq_none_iff short).mp found) unclean
    | some pair =>
        obtain ⟨other, finding⟩ := pair
        obtain ⟨rfl, -⟩ := finding?_eq_some_iff.mp found
        have judged : other.verdict payload = .ofFinding payload (some (other, finding)) := by
          rw [verdict, found]
        cases finding with
        | access opcode place =>
            exact absurd ((verdict_eq_use_iff short split).mp judged).2 (others.1 _ _)
        | unreadable fault =>
            cases fault with
            | unknownOpcode op place =>
                exact absurd ((verdict_eq_unknown_iff short split).mp judged).2 (others.2 _ _)
            | malformed fault => exact ⟨other, fault, rfl, rfl⟩

end FunctionBody

namespace Module

open FunctionBody

variable {m : Module} {code : Section} {bodies : List FunctionBody}

theorem scan_unknown_iff (found : m.section? .code = some code) (framed : Framed code.payload bodies)
    {op : Opcode} {function : UInt32} {offset : Nat} :
    m.scan = .error (.unknownOpcode op function offset) ↔
      ∃ body, bodies[function.toNat]? = some body ∧
        (∀ earlier ∈ bodies.take function.toNat, earlier.Clean) ∧
        body.Unassigned code.payload op offset := by
  have unknown : (.error (.unknownOpcode op function offset) : Verdict) ≠ .ok none := nofun
  exact scan_eq_iff_at found framed unknown fun short split => verdict_eq_unknown_iff short split

theorem scan_malformedBody_iff (found : m.section? .code = some code) (framed : Framed code.payload bodies)
    {i : Nat} {body : FunctionBody} (at_i : bodies[i]? = some body)
    (before : ∀ earlier ∈ bodies.take i, earlier.Clean) (unclean : ¬body.Clean) :
    (∃ offset reason, m.scan = .error (.malformedBody i.toUInt32 offset reason)) ↔
      (∀ opcode offset, ¬body.Uses code.payload opcode offset) ∧
      ∀ op offset, ¬body.Unassigned code.payload op offset := by
  obtain ⟨numbered, short, front, split⟩ := framed.body at_i
  have same : i.toUInt32 = body.index := by
    rw [← numbered, Nat.toUInt32_eq, UInt32.ofNat_toNat]
  rw [scan_of_first found framed at_i before unclean, same]
  exact verdict_malformedBody_iff short split unclean

/-- An unknown opcode is reported exactly if the walk over the first body that is not clean comes to one. What
is reported is the opcode that stands there: it has a number if its byte is a lead byte, and is in no table of
memory instructions. Of the other bodies that are not clean, those that use no memory are malformed. -/
theorem unknown_exact (m : Module) :
    (∀ op function offset, m.scan = .error (.unknownOpcode op function offset) ↔
      ∃ code bodies body, m.section? .code = some code ∧ Framed code.payload bodies ∧
        bodies[function.toNat]? = some body ∧ (∀ earlier ∈ bodies.take function.toNat, earlier.Clean) ∧
        body.Unassigned code.payload op offset) ∧
    (∀ (code : Section) bodies body op offset, Framed code.payload bodies → body ∈ bodies →
      body.Unassigned code.payload op offset →
        body.HasOpcodeAt code.payload op offset ∧
        (op.sub.isSome ↔ ∃ page, op.byte = OpcodePage.lead page) ∧
        MemoryOpcode.Unlisted op) ∧
    ∀ code bodies (i : Nat) body, m.section? .code = some code → Framed code.payload bodies →
      bodies[i]? = some body → (∀ earlier ∈ bodies.take i, earlier.Clean) → ¬body.Clean →
        ((∃ offset reason, m.scan = .error (.malformedBody i.toUInt32 offset reason)) ↔
          (∀ opcode offset, ¬body.Uses code.payload opcode offset) ∧
          ∀ op offset, ¬body.Unassigned code.payload op offset) := by
  refine ⟨fun op function offset => ⟨fun unknown => ?_, fun parts => ?_⟩, ?_, ?_⟩
  · obtain ⟨code, bodies, found, framed⟩ := exists_framed_of_scan unknown nofun nofun
    obtain ⟨body, first⟩ := (scan_unknown_iff found framed).mp unknown
    exact ⟨code, bodies, body, found, framed, first⟩
  · rcases parts with ⟨code, bodies, body, found, framed, first⟩
    exact (scan_unknown_iff found framed).mpr ⟨body, first⟩
  · intro code bodies body op offset framed member unassigned
    obtain ⟨i, at_i⟩ := List.mem_iff_getElem?.mp member
    obtain ⟨-, -, front, split⟩ := framed.body at_i
    obtain ⟨spelled, here, unknown⟩ := unassigned.spells
    exact ⟨unassigned.hasOpcodeAt split, here.sub_isSome_iff, .of_unassigned here unknown⟩
  · intro code bodies i body found framed at_i before unclean
    exact scan_malformedBody_iff found framed at_i before unclean

/-- A reserved number behind `0xfd`, padded, behind a `nop`. -/
example : scan ⟨[⟨.code, [1, 7, 0, 0x01, 0xfd, 0xa2, 0x81, 0x00, 0x0b]⟩]⟩ =
    .error (.unknownOpcode (.numbered 0xfd 0xa2) 0 4) := by cbv

end Module

end Memoryless
