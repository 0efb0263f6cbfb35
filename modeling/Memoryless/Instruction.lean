import Memoryless.Instruction.Table

/-!
# Instructions

Reading an instruction gives its opcode and passes over its immediates. It fails if the opcode is not
assigned, or if some part of the instruction cannot be read; the two are told apart. `next_shorter`
says that an instruction takes bytes, so a walk over instructions ends.
-/

namespace Memoryless

/-- Why no instruction can be read at a place. -/
inductive CodeFault
  | unknownOpcode (op : Opcode) (rest : Bytes)
  | malformed (fault : Fault)
  deriving DecidableEq, Repr

/-- The place to blame. -/
def CodeFault.rest : CodeFault → Bytes
  | unknownOpcode _ rest => rest
  | malformed fault => fault.rest

namespace Instruction

/-- A reserved byte that is not zero is blamed on the whole instruction. -/
def blame (instruction : Bytes) (fault : Fault) : Fault :=
  if fault.reason = .reservedByte then { fault with rest := instruction } else fault

/-- The opcode of the next instruction, and what follows its immediates. -/
def next (s : Bytes) : Except CodeFault (Opcode × Bytes) :=
  match Opcode.read s with
  | .error fault => .error (.malformed fault)
  | .ok (op, afterOpcode) =>
    match op.immediates? with
    | none => .error (.unknownOpcode op s)
    | some kinds =>
      match Immediate.skipAll kinds afterOpcode with
      | .error fault => .error (.malformed (blame s fault))
      | .ok (_, rest) => .ok (op, rest)

/-- A readable instruction: its opcode is assigned, and its immediates can be passed over. -/
theorem next_ok {s rest : Bytes} {op : Opcode} (run : next s = .ok (op, rest)) :
    ∃ afterOpcode kinds, Opcode.read s = .ok (op, afterOpcode) ∧ op.immediates? = some kinds ∧
      Immediate.skipAll kinds afterOpcode = .ok ((), rest) := by
  unfold next at run
  split at run
  · cases run
  · rename_i found afterOpcode opcodeRead
    split at run
    · cases run
    · rename_i kinds assigned
      split at run <;> cases run
      rename_i skipped
      exact ⟨afterOpcode, kinds, opcodeRead, assigned, skipped⟩

theorem next_suffix {s rest : Bytes} {op : Opcode} (run : next s = .ok (op, rest)) : rest <:+ s := by
  obtain ⟨afterOpcode, kinds, opcodeRead, _, skipped⟩ := next_ok run
  exact ((Immediate.skipAll_within kinds).rest_suffix skipped).trans
    (Opcode.read_within.rest_suffix opcodeRead)

/-- An instruction takes at least one byte. -/
theorem next_shorter {s rest : Bytes} {op : Opcode} (run : next s = .ok (op, rest)) :
    rest.length < s.length := by
  obtain ⟨afterOpcode, kinds, opcodeRead, _, skipped⟩ := next_ok run
  exact Nat.lt_of_le_of_lt ((Immediate.skipAll_within kinds).rest_suffix skipped).length_le
    (Opcode.read_advances opcodeRead)

theorem blame_suffix {s afterOpcode : Bytes} {fault : Fault} (inside : afterOpcode <:+ s)
    (found : fault.rest <:+ afterOpcode) : (blame s fault).rest <:+ s := by
  unfold blame
  split
  · exact List.suffix_rfl
  · exact found.trans inside

/-- What is blamed is a place in the code that was given. -/
theorem next_fault_suffix {s : Bytes} {fault : CodeFault} (run : next s = .error fault) :
    fault.rest <:+ s := by
  unfold next at run
  split at run
  · rename_i found opcodeRead
    cases run
    exact Opcode.read_within.fault_suffix opcodeRead
  · rename_i op afterOpcode opcodeRead
    have inside := Opcode.read_within.rest_suffix opcodeRead
    split at run
    · cases run; exact List.suffix_rfl
    · rename_i kinds assigned
      split at run <;> cases run
      rename_i found skipped
      exact blame_suffix inside ((Immediate.skipAll_within kinds).fault_suffix skipped)

end Instruction

end Memoryless
