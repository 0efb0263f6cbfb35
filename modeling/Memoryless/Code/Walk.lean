import Memoryless.Code
import Memoryless.Instruction.Memory

/-!
# The walk over a body

Instructions are read one after the other until the function is closed. The walk stops at the first thing
that keeps the body from being clean: an instruction that needs a memory, or code that cannot be
read. The depth counts the blocks that are open. A closing instruction outside of all blocks closes the
function, and has to be the last one.
-/

namespace Memoryless

/-- What keeps a body from being clean, with its place in the body. -/
inductive Finding
  | access (opcode : MemoryOpcode) (place : Bytes)
  | unreadable (fault : CodeFault)
  deriving DecidableEq, Repr

/-- The place of a finding. -/
def Finding.place : Finding → Bytes
  | access _ place => place
  | unreadable fault => fault.rest

namespace FunctionBody

/-- Nothing may follow the instruction that closes the function. -/
def afterClose : Bytes → Option Finding
  | [] => none
  | b :: s => some (.unreadable (.malformed ⟨.afterOperators, b :: s⟩))

/-- What keeps the rest of a body from being clean, with `depth` blocks open. -/
def walk (depth : UInt32) : Bytes → Option Finding
  | [] => some (.unreadable (.malformed ⟨.missingEnd, []⟩))
  | b :: s =>
    match _read : Instruction.next (b :: s) with
    | .error fault => some (.unreadable fault)
    | .ok (op, rest) =>
      match MemoryOpcode.ofOpcode? op with
      | some found => some (.access found (b :: s))
      | none =>
        match op.nesting with
        | .opens => walk (depth + 1) rest
        | .level => walk depth rest
        | .closes => if depth = 0 then afterClose rest else walk (depth - 1) rest
termination_by s => s.length
decreasing_by all_goals exact Instruction.next_shorter _read

/-- One instruction and what follows it. -/
theorem walk_cons (depth : UInt32) (b : UInt8) (s : Bytes) :
    walk depth (b :: s) =
      match Instruction.next (b :: s) with
      | .error fault => some (.unreadable fault)
      | .ok (op, rest) =>
        match MemoryOpcode.ofOpcode? op with
        | some found => some (.access found (b :: s))
        | none =>
          match op.nesting with
          | .opens => walk (depth + 1) rest
          | .level => walk depth rest
          | .closes => if depth = 0 then afterClose rest else walk (depth - 1) rest := by
  rw [walk]
  cases Instruction.next (b :: s) <;> rfl

/-- What keeps a body from being clean. -/
def inspect (contents : Bytes) : Option Finding :=
  match skipLocals contents with
  | .error fault => some (.unreadable (.malformed fault))
  | .ok (_, instructions) => walk 0 instructions

theorem afterClose_suffix {s : Bytes} {found : Finding} (run : afterClose s = some found) :
    found.place <:+ s := by
  cases s <;> cases run
  exact List.suffix_rfl

/-- What is found has its place in what was walked over. -/
theorem walk_suffix {depth : UInt32} {s : Bytes} {found : Finding}
    (run : walk depth s = some found) : found.place <:+ s := by
  fun_induction walk depth s with
  | case1 => cases run; exact List.suffix_rfl
  | case2 depth b s fault read =>
      cases run
      exact Instruction.next_fault_suffix read
  | case3 => cases run; exact List.suffix_rfl
  | case4 depth b s op rest read _ _ ih => exact (ih run).trans (Instruction.next_suffix read)
  | case5 depth b s op rest read _ _ ih => exact (ih run).trans (Instruction.next_suffix read)
  | case6 b s op rest read _ _ => exact (afterClose_suffix run).trans (Instruction.next_suffix read)
  | case7 depth b s op rest read _ _ _ ih => exact (ih run).trans (Instruction.next_suffix read)

/-- What is found in a body has its place there. -/
theorem inspect_suffix {contents : Bytes} {found : Finding}
    (run : inspect contents = some found) : found.place <:+ contents := by
  unfold inspect at run
  split at run
  · rename_i fault localsRead
    cases run
    exact skipLocals_within.fault_suffix localsRead
  · rename_i instructions localsRead
    exact (walk_suffix run).trans (skipLocals_within.rest_suffix localsRead)

end FunctionBody

end Memoryless
