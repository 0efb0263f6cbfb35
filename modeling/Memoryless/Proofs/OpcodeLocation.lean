import Memoryless.Proofs.Classification
import Memoryless.Proofs.MemoryGate

/-!
# Where an opcode stands

An instruction is read in a body, but reported with an offset in the code section.
`FunctionBody.HasOpcodeAt` says what such a report promises to someone who only has the bytes of the section:
the offset lies between the local variables of the body and its end, the byte there is the one that the
opcode begins with, and its number, if it has one, can be read behind that byte.

Every instruction that a walk over a body comes to is in such a place (`FunctionBody.Reaches.hasOpcodeAt`).
`Module.use_hasOpcodeAt` draws the conclusion for a use of memory.
-/

namespace Memoryless

/-- An opcode, in any form, begins with its byte, and its number follows. -/
theorem Opcode.Spells.exists_cons {front : Bytes} {op : Opcode} (here : Spells front op) :
    ∃ number, front = op.byte :: number ∧ ∀ sub, op.sub = some sub → Leb128.Spells 32 number sub.toNat := by
  cases here with
  | single => exact ⟨[], rfl, nofun⟩
  | @numbered page number sub here =>
      refine ⟨number, rfl, fun other same => ?_⟩
      cases same
      exact here

namespace FunctionBody

open Instruction Opcode

/-- The opcode stands in the instructions of this body, at this offset of the section. -/
structure HasOpcodeAt (body : FunctionBody) (payload : Bytes) (op : Opcode) (offset : Nat) : Prop where
  /-- The offset is behind the local variables of the body, and before its end. -/
  inside : ∃ before locals instructions, payload = before ++ (body.contents ++ body.rest) ∧
    body.contents = locals ++ instructions ∧ skipLocals body.contents = .ok ((), instructions) ∧
    (before ++ locals).length ≤ offset ∧ offset < (before ++ body.contents).length
  byte : payload[offset]? = some op.byte
  number : ∀ sub, op.sub = some sub →
    ∃ rest, Leb128.u32 (payload.drop (offset + 1)) = .ok (sub, rest)

variable {body : FunctionBody}

/-- An opcode at a place that is reached has the offset of that place. -/
theorem Reaches.hasOpcodeAt {ops : List Opcode} {op : Opcode} {spelled after payload before front : Bytes}
    (reaches : body.Reaches ops (spelled ++ after)) (here : Opcode.Spells spelled op)
    (split : payload = before ++ (body.contents ++ body.rest))
    (whole : payload = front ++ ((spelled ++ after) ++ body.rest)) :
    body.HasOpcodeAt payload op front.length := by
  obtain ⟨number, rfl, numbered⟩ := here.exists_cons
  rcases reaches with ⟨instructions, localsRead, run⟩
  obtain ⟨locals, contents⟩ := skipLocals_within.rest_suffix localsRead
  obtain ⟨passed, reached⟩ := run.suffix
  refine ⟨⟨before, locals, instructions, split, contents.symm, localsRead, ?_⟩, ?_, ?_⟩
  · -- Both ways of cutting the section leave the same behind the place.
    have lengths := congrArg List.length (split.symm.trans whole)
    rw [← contents, ← reached] at lengths ⊢
    simp only [List.length_append, List.length_cons] at lengths ⊢
    omega
  · rw [whole, List.getElem?_append_right (Nat.le_refl _), Nat.sub_self]
    rfl
  · intro sub same
    refine ⟨after ++ body.rest, ?_⟩
    have behind : payload.drop (front.length + 1) = number ++ (after ++ body.rest) := by
      rw [whole, ← List.drop_drop, List.drop_left]
      simp only [List.cons_append, List.append_assoc, List.drop_one, List.tail_cons]
    rw [behind]
    exact Leb128.u32_reads.accepted (numbered sub same) _

/-- The instruction that uses a memory has the opcode of the memory instruction that is reported. -/
theorem Uses.hasOpcodeAt {payload before : Bytes} {opcode : MemoryOpcode} {offset : Nat}
    (uses : body.Uses payload opcode offset) (split : payload = before ++ (body.contents ++ body.rest)) :
    body.HasOpcodeAt payload opcode.opcode offset := by
  rcases uses with ⟨ops, op, place, rest, front, reaches, -, -, read, memory, whole, rfl⟩
  obtain ⟨spelled, after, -, rfl, here, -⟩ := next_ok_iff.mp read
  obtain ⟨same, -⟩ := MemoryOpcode.ofOpcode?_eq_some memory
  rw [same]
  exact reaches.hasOpcodeAt here split whole

end FunctionBody

namespace Module

open FunctionBody

/-- A use of memory is reported in one of the functions that the section counts, and there where the opcode
of the memory instruction stands. -/
theorem use_hasOpcodeAt {m : Module} {use : MemoryUse} (found : m.scan = .ok (some use)) :
    ∃ code count rows bodies body, m.section? .code = some code ∧
      Leb128.u32 code.payload = .ok (count, rows) ∧ use.function < count ∧
      Framed code.payload bodies ∧ bodies[use.function.toNat]? = some body ∧
      body.HasOpcodeAt code.payload use.opcode.opcode use.offset := by
  obtain ⟨code, bodies, present, framed⟩ := exists_framed_of_scan found nofun nofun
  obtain ⟨body, at_i, -, uses⟩ := (scan_use_iff present framed).mp found
  obtain ⟨-, -, before, split⟩ := framed.body at_i
  obtain ⟨count, rows, counted, all⟩ := framed.counted
  have among : use.function < count := by
    rw [UInt32.lt_iff_toNat_lt, all]
    exact (List.getElem?_eq_some_iff.mp at_i).1
  exact ⟨code, count, rows, bodies, body, present, counted, among, framed, at_i, uses.hasOpcodeAt split⟩

/-- A `memory.copy` with a padded number, in the second function and behind a local variable. -/
theorem use_hasOpcodeAt_padded :
    scan ⟨[⟨.code, [2, 2, 0, 0x0b, 10, 1, 1, 0x7f, 0xfc, 0x8a, 0x80, 0, 0, 0, 0x0b]⟩]⟩ =
        .ok (some ⟨.memoryCopy, 1, 8⟩) ∧
      ∃ code count rows bodies body,
        (Module.mk [⟨.code, [2, 2, 0, 0x0b, 10, 1, 1, 0x7f, 0xfc, 0x8a, 0x80, 0, 0, 0, 0x0b]⟩]).section? .code =
          some code ∧
        Leb128.u32 code.payload = .ok (count, rows) ∧ 1 < count ∧ Framed code.payload bodies ∧
        bodies[1]? = some body ∧ body.HasOpcodeAt code.payload (.numbered 0xfc 10) 8 := by
  have found : scan ⟨[⟨.code, [2, 2, 0, 0x0b, 10, 1, 1, 0x7f, 0xfc, 0x8a, 0x80, 0, 0, 0, 0x0b]⟩]⟩ =
      .ok (some ⟨.memoryCopy, 1, 8⟩) := by cbv
  exact ⟨found, use_hasOpcodeAt found⟩

end Module

end Memoryless
