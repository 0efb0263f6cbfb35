import Memoryless.Draft
import Memoryless.Proofs.Classification
import Memoryless.Proofs.InstructionRun
import Memoryless.Proofs.WrittenTypes

/-!
# Written instructions

An instruction of a draft is read as what it was written from, whatever follows it, so nothing in its
immediates is taken for an instruction (`DraftInstruction.next_write`). This needs that a constant fits into
32 bits and that an alignment leaves bit 6 free, which says that a memory is named. A block whose result names
a type beyond the limit is not read at all (`DraftInstruction.next_overLimit`).

`DraftInstruction.flaw?` goes over the instructions of a function without looking at their bytes. The walk
over the bytes comes to the same end, at the same place (`FunctionBody.walk_write`).
-/

namespace Memoryless

/-! ## Immediates -/

namespace Immediate

open Reader

theorem skipNumber_ofNat (n : UInt32) (rest : Bytes) :
    skipNumber (Leb128.ofNat n.toNat ++ rest) = .ok ((), rest) :=
  pass_of_ok (Leb128.u32_ofNat n rest)

theorem skip_integer {z : Int} (low : -2 ^ 31 ≤ z) (high : z < 2 ^ 31) (rest : Bytes) :
    (integer .i32).skip (Leb128.ofInt z ++ rest) = .ok ((), rest) :=
  pass_of_ok (Leb128.signedBits_ofInt .i32 (by decide) low high rest)

theorem alignment_near {flags : UInt32} (first : flags.toNat.testBit 6 = false) (rest : Bytes) :
    alignment (Leb128.ofNat flags.toNat ++ rest) = .ok (flags, rest) := by
  rw [alignment, bind_of_ok (Leb128.u32_ofNat flags rest), first]
  rfl

theorem alignment_far {flags : UInt32} (other : flags.toNat.testBit 6 = true) (memory : UInt32)
    (rest : Bytes) :
    alignment (Leb128.ofNat flags.toNat ++ (Leb128.ofNat memory.toNat ++ rest)) =
      .ok (flags, rest) := by
  rw [alignment, bind_of_ok (Leb128.u32_ofNat flags _), other, if_pos rfl,
    bind_of_ok (skipNumber_ofNat memory rest)]
  rfl

theorem skip_memoryAccess {s middle rest : Bytes} {flags : UInt32} {offset : Nat}
    (aligned : alignment s = .ok (flags, middle)) (small : flags.toNat < 128)
    (placed : Leb128.unsigned .u64 middle = .ok (offset, rest)) :
    memoryAccess.skip s = .ok ((), rest) := by
  have inRange : decide (flags < 128) = true := decide_eq_true (UInt32.lt_iff_toNat_lt.mpr small)
  have front : (alignment.require .first .alignment fun flags => flags < 128).pass s =
      .ok ((), middle) := pass_of_ok (require_of_ok aligned inRange)
  exact (bind_of_ok front).trans (pass_of_ok placed)

theorem skip_writeAccess {alignment : UInt32} (small : alignment < 64) (offset : UInt64)
    (memory : UInt32) (rest : Bytes) :
    memoryAccess.skip (DraftInstruction.writeAccess alignment offset memory ++ rest) =
      .ok ((), rest) := by
  have fits : alignment.toNat < 2 ^ 6 := UInt32.lt_iff_toNat_lt.mp small
  have placed := Leb128.unsigned_ofNat offset rest
  rw [DraftInstruction.writeAccess]
  split
  · have first : alignment.toNat.testBit 6 = false := Nat.testBit_lt_two_pow fits
    rw [List.append_assoc]
    exact skip_memoryAccess (alignment_near first _) (Nat.lt_trans fits (by decide)) placed
  · have flags : (alignment ||| 64).toNat = alignment.toNat ||| 64 := UInt32.toNat_or ..
    have other : (alignment ||| 64).toNat.testBit 6 = true := by
      rw [flags, Nat.testBit_or, Bool.or_eq_true]
      exact .inr (by decide)
    have below : (alignment ||| 64).toNat < 2 ^ 7 := by
      rw [flags]
      exact Nat.or_lt_two_pow (Nat.lt_trans fits (by decide)) (by decide)
    rw [List.append_assoc, List.append_assoc]
    exact skip_memoryAccess (alignment_far other memory _) below placed

theorem skip_blockType {type : BlockType} (within : type.overLimit = false) (rest : Bytes) :
    blockType.skip (type.write ++ rest) = .ok ((), rest) := by
  rw [skip, WasmType.skipBlock_write, within]
  rfl

theorem skip_blockType_overLimit {type : BlockType} (beyond : type.overLimit = true) (rest : Bytes) :
    blockType.skip (type.write ++ rest) = .error ⟨.typeIndexLimit, rest⟩ := by
  rw [skip, WasmType.skipBlock_write, beyond]
  rfl

end Immediate

/-! ## Instructions -/

namespace Instruction

variable {b : UInt8} {kind : Immediate} {s rest : Bytes}

/-- An instruction that is a single byte. -/
theorem next_single (alone : OpcodePage.ofLead? b = none)
    (assigned : (Opcode.single b).immediates? = some []) : next (b :: rest) = .ok (.single b, rest) :=
  next_ok_iff.mpr ⟨[b], rest, [], rfl, .single alone, assigned, rfl⟩

/-- An instruction that is a single byte and one immediate. -/
theorem next_followed (alone : OpcodePage.ofLead? b = none)
    (assigned : (Opcode.single b).immediates? = some [kind]) (skipped : kind.skip s = .ok ((), rest)) :
    next (b :: s) = .ok (.single b, rest) :=
  next_ok_iff.mpr ⟨[b], s, [kind], rfl, .single alone, assigned, Reader.bind_of_ok skipped⟩

/-- An instruction whose one immediate is refused. -/
theorem next_refused {fault : Fault} (alone : OpcodePage.ofLead? b = none)
    (assigned : (Opcode.single b).immediates? = some [kind]) (refused : kind.skip s = .error fault)
    (other : fault.reason ≠ .reservedByte) : next (b :: s) = .error (.malformed fault) := by
  have opcodeRead : Opcode.read (b :: s) = .ok (.single b, s) :=
    Opcode.read_reads.accepted (.single alone) s
  have stopped : Immediate.skipAll [kind] s = .error fault := Reader.bind_of_error refused
  simp only [next, opcodeRead, assigned, stopped, blame, if_neg other]

end Instruction

namespace DraftInstruction

/-- The opcode of an instruction. -/
def opcode : DraftInstruction → Opcode
  | nop => .single 0x01
  | drop => .single 0x1a
  | close => .single 0x0b
  | i32Add => .single 0x6a
  | block _ => .single 0x02
  | loop _ => .single 0x03
  | branch _ => .single 0x0c
  | call _ => .single 0x10
  | i32Const _ => .single 0x41
  | memorySize _ => .single 0x3f
  | memoryGrow _ => .single 0x40
  | i32Load .. => .single 0x28

/-- The arguments of an instruction are those that it may have: a constant of 32 bits, and an alignment
below 64. -/
def Fits : DraftInstruction → Prop
  | i32Const value => -2 ^ 31 ≤ value ∧ value < 2 ^ 31
  | i32Load alignment _ _ => alignment < 64
  | _ => True

instance : DecidablePred Fits
  | i32Const value => inferInstanceAs (Decidable (-2 ^ 31 ≤ value ∧ value < 2 ^ 31))
  | i32Load alignment _ _ => inferInstanceAs (Decidable (alignment < 64))
  | nop | drop | close | i32Add | block _ | loop _ | branch _ | call _ | memorySize _ | memoryGrow _ =>
    inferInstanceAs (Decidable True)

/-- Does the result of a block name a type beyond the limit? -/
def overLimit : DraftInstruction → Bool
  | block type | loop type => type.overLimit
  | _ => false

open Instruction Immediate in
/-- An instruction is read as what it was written from, and nothing of what follows it is touched. -/
theorem next_write {i : DraftInstruction} (fits : i.Fits) (within : i.overLimit = false) (rest : Bytes) :
    Instruction.next (i.write ++ rest) = .ok (i.opcode, rest) := by
  cases i with
  | nop => exact next_single rfl rfl
  | drop => exact next_single rfl rfl
  | close => exact next_single rfl rfl
  | i32Add => exact next_single rfl rfl
  | block type => exact next_followed rfl rfl (skip_blockType within rest)
  | loop type => exact next_followed rfl rfl (skip_blockType within rest)
  | branch label => exact next_followed rfl rfl (skipNumber_ofNat label rest)
  | call function => exact next_followed rfl rfl (skipNumber_ofNat function rest)
  | i32Const value => exact next_followed rfl rfl (skip_integer fits.1 fits.2 rest)
  | memorySize memory => exact next_followed rfl rfl (skipNumber_ofNat memory rest)
  | memoryGrow memory => exact next_followed rfl rfl (skipNumber_ofNat memory rest)
  | i32Load alignment offset memory =>
      exact next_followed rfl rfl (skip_writeAccess fits offset memory rest)

open Instruction Immediate in
/-- An index beyond the limit is refused, behind the whole instruction. -/
theorem next_overLimit {i : DraftInstruction} (beyond : i.overLimit = true) (rest : Bytes) :
    Instruction.next (i.write ++ rest) = .error (.malformed ⟨.typeIndexLimit, rest⟩) := by
  cases i with
  | block type => exact next_refused rfl rfl (skip_blockType_overLimit beyond rest) nofun
  | loop type => exact next_refused rfl rfl (skip_blockType_overLimit beyond rest) nofun
  | _ => cases beyond

/-- The memory instruction that an instruction is. -/
def memoryOpcode? : DraftInstruction → Option MemoryOpcode
  | memorySize _ => some .memorySize
  | memoryGrow _ => some .memoryGrow
  | i32Load .. => some .i32Load
  | _ => none

/-- What an instruction does to the nesting of blocks. -/
def nesting : DraftInstruction → Opcode.Nesting
  | block _ | loop _ => .opens
  | close => .closes
  | _ => .level

theorem ofOpcode?_opcode (i : DraftInstruction) :
    MemoryOpcode.ofOpcode? i.opcode = i.memoryOpcode? := by
  cases i <;> rfl

theorem nesting_opcode (i : DraftInstruction) : i.opcode.nesting = i.nesting := by
  cases i <;> rfl

theorem write_ne_nil (i : DraftInstruction) : i.write ≠ [] := by
  cases i <;> exact List.cons_ne_nil _ _

/-! ## Flaws -/

/-- What keeps the instructions of a function from being clean. -/
inductive Flaw
  | access (opcode : MemoryOpcode)
  | typeIndexLimit
  | closedEarly
  | unclosed
  deriving DecidableEq, Repr

/-- The first flaw of some instructions, with `depth` blocks open before them, and the instructions from
there on. An instruction that closes the function has to be the last one, and a type index is refused behind
its instruction. -/
def flaw? (depth : Nat) : List DraftInstruction → Option (Flaw × List DraftInstruction)
  | [] => some (.unclosed, [])
  | i :: later =>
    match i.memoryOpcode? with
    | some opcode => some (.access opcode, i :: later)
    | none =>
      match i.nesting with
      | .opens => if i.overLimit then some (.typeIndexLimit, later) else flaw? (depth + 1) later
      | .level => flaw? depth later
      | .closes =>
        match depth with
        | 0 => if later = [] then none else some (.closedEarly, later)
        | depth + 1 => flaw? depth later

/-- What the walk over the bytes makes of a flaw, given what is written from there on. -/
def Flaw.finding (place : Bytes) : Flaw → Finding
  | access opcode => .access opcode place
  | typeIndexLimit => .unreadable (.malformed ⟨.typeIndexLimit, place⟩)
  | closedEarly => .unreadable (.malformed ⟨.afterOperators, place⟩)
  | unclosed => .unreadable (.malformed ⟨.missingEnd, place⟩)

section Flaw

variable {depth : Nat} {i : DraftInstruction} {is later left : List DraftInstruction} {flaw : Flaw}

theorem flaw?_access {opcode : MemoryOpcode} (memory : i.memoryOpcode? = some opcode) :
    flaw? depth (i :: later) = some (.access opcode, i :: later) := by
  simp only [flaw?, memory]

theorem flaw?_closed (plain : i.memoryOpcode? = none) (closes : i.nesting = .closes) :
    flaw? 0 (i :: later) = if later = [] then none else some (.closedEarly, later) := by
  simp only [flaw?, plain, closes]

/-- A block is the only instruction with a type. -/
theorem of_overLimit (beyond : i.overLimit = true) : i.memoryOpcode? = none ∧ i.nesting = .opens := by
  cases i with
  | block | loop => exact ⟨rfl, rfl⟩
  | _ => cases beyond

theorem flaw?_overLimit (beyond : i.overLimit = true) :
    flaw? depth (i :: later) = some (.typeIndexLimit, later) := by
  obtain ⟨plain, opens⟩ := of_overLimit beyond
  simp only [flaw?, plain, opens, beyond, if_true]

/-- An instruction that is read, needs no memory and leaves the function open. -/
theorem flaw?_next (plain : i.memoryOpcode? = none) (within : i.overLimit = false) {reached : Nat}
    (moved : (reached : Int) = depth + i.opcode.change) :
    flaw? depth (i :: later) = flaw? reached later := by
  cases nested : i.nesting with
  | opens =>
      have changed : i.opcode.change = 1 := by rw [Opcode.change, nesting_opcode, nested]
      obtain rfl : reached = depth + 1 := by omega
      simp only [flaw?, plain, nested, within, Bool.false_eq_true, if_false]
  | level =>
      have changed : i.opcode.change = 0 := by rw [Opcode.change, nesting_opcode, nested]
      obtain rfl : reached = depth := by omega
      simp only [flaw?, plain, nested]
  | closes =>
      have changed : i.opcode.change = -1 := by rw [Opcode.change, nesting_opcode, nested]
      obtain rfl : depth = reached + 1 := by omega
      simp only [flaw?, plain, nested]

theorem flaw?_suffix (found : flaw? depth is = some (flaw, left)) : left <:+ is := by
  fun_induction flaw? depth is with
  | case1 =>
      cases found
      exact List.suffix_rfl
  | case2 =>
      cases found
      exact List.suffix_rfl
  | case3 =>
      cases found
      exact List.suffix_cons ..
  | case4 i later _ _ _ depth ih => exact (ih found).trans (List.suffix_cons ..)
  | case5 i later _ _ depth ih => exact (ih found).trans (List.suffix_cons ..)
  | case6 => cases found
  | case7 =>
      cases found
      exact List.suffix_cons ..
  | case8 i later _ _ depth ih => exact (ih found).trans (List.suffix_cons ..)

end Flaw

end DraftInstruction

namespace FunctionBody

open DraftInstruction Instruction

theorem afterClose_write (later : List DraftInstruction) :
    afterClose (later.flatMap write) =
      if later = [] then none
      else some (.unreadable (.malformed ⟨.afterOperators, later.flatMap write⟩)) := by
  cases later with
  | nil => rfl
  | cons i later =>
      rw [if_neg (List.cons_ne_nil _ _), List.flatMap_cons]
      cases written : i.write with
      | nil => exact absurd written i.write_ne_nil
      | cons => rfl

theorem walk_of_error {depth : UInt32} {s : Bytes} {fault : CodeFault} (nonempty : s ≠ [])
    (failed : next s = .error fault) : walk depth s = some (.unreadable fault) := by
  cases s with
  | nil => exact absurd rfl nonempty
  | cons b s => rw [walk_cons, failed]

/-- The walk over what is written of some instructions finds their first flaw. -/
theorem walk_write {depth : UInt32} {is : List DraftInstruction} (fits : ∀ i ∈ is, i.Fits)
    (short : depth.toNat + (is.flatMap write).length < 2 ^ 32) :
    walk depth (is.flatMap write) =
      (flaw? depth.toNat is).map fun found => found.1.finding (found.2.flatMap write) := by
  induction is generalizing depth with
  | nil =>
      rw [List.flatMap_nil, walk]
      rfl
  | cons i later ih =>
      obtain ⟨here, others⟩ := List.forall_mem_cons.mp fits
      have kind := ofOpcode?_opcode i
      rw [List.flatMap_cons] at short ⊢
      cases limit : i.overLimit with
      | true =>
          have nonempty := List.append_ne_nil_of_left_ne_nil i.write_ne_nil (later.flatMap write)
          rw [walk_of_error nonempty (next_overLimit limit _), flaw?_overLimit limit]
          rfl
      | false =>
          have read := next_write here limit (later.flatMap write)
          cases memory : i.memoryOpcode? with
          | some opcode =>
              have stops : Stops depth.toNat _ _ := .access read (kind.trans memory)
              rw [stops.walk_eq, flaw?_access memory]
              rfl
          | none =>
              have plain := kind.trans memory
              by_cases last : i.nesting = .closes ∧ depth.toNat = 0
              · have outermost : (depth.toNat : Int) = 0 := Int.ofNat_inj.mpr last.2
                have stops := Stops.closed read plain ((nesting_opcode i).trans last.1) outermost
                rw [stops.walk_eq, last.2, flaw?_closed memory last.1, afterClose_write]
                split <;> rfl
              · have lowest := Opcode.change_ge i.opcode
                have stays : 0 ≤ (depth.toNat : Int) + i.opcode.change := by
                  by_contra below
                  have closes : i.nesting = .closes := by
                    rw [← nesting_opcode]
                    exact Opcode.change_eq_neg_one_iff.mp (by omega)
                  exact last ⟨closes, by omega⟩
                obtain ⟨reached, moved, fitting, same⟩ := walk_next read plain stays short
                rw [same, ih others fitting, flaw?_next memory limit moved]

theorem inspect_writeBody {f : List DraftInstruction} (fits : ∀ i ∈ f, i.Fits)
    (short : (Draft.writeBody f).length < 2 ^ 32) :
    inspect (Draft.writeBody f) =
      (flaw? 0 (f ++ [.close])).map fun found => found.1.finding (found.2.flatMap write) := by
  have noLocals : skipLocals (Draft.writeBody f) = .ok ((), (f ++ [close]).flatMap write) := rfl
  have all : ∀ i ∈ f ++ [close], i.Fits :=
    List.forall_mem_append.mpr ⟨fits, List.forall_mem_singleton.mpr trivial⟩
  have room : (0 : UInt32).toNat + ((f ++ [close]).flatMap write).length < 2 ^ 32 := by
    rw [Draft.writeBody, List.length_cons] at short
    rw [UInt32.toNat_zero]
    omega
  unfold inspect
  rw [noLocals]
  exact walk_write all room

end FunctionBody

end Memoryless
