import Memoryless.Code.Refusal
import Memoryless.Proofs.UnknownOpcodes

/-!
# Opcodes read again

A refused instruction is known by a text and an offset only. That is enough: no other text begins like those of
opcodes that are not assigned (`Refusal.namesOpcode_reason`), and their offset is that of the opcode, so it is
read again as it was (`FunctionBody.unknownOpcode?_refusal`). What is reported of a refusal is therefore what
the verdict says of the fault (`FunctionBody.reported_refusal`).
-/

namespace Memoryless

/-! ## Texts -/

/-- Of two beginnings of a text one is a beginning of the other. -/
theorem isPrefixOf_append_eq_false {start front back : List Char} (longer : ¬start <+: front)
    (other : ¬front <+: start) : start.isPrefixOf (front ++ back) = false := by
  rw [Bool.eq_false_iff, Ne, List.isPrefixOf_iff_prefix]
  intro here
  exact (List.prefix_or_prefix_of_prefix here (List.prefix_append front back)).elim longer other

namespace Refusal

/-- The text goes on behind a beginning that tells it from those of opcodes that are not assigned. -/
theorem namesOpcode_append {front back : String}
    (apart : ∀ start ∈ ["illegal opcode", "unknown 0x"],
      ¬start.toList <+: front.toList ∧ ¬front.toList <+: start.toList) :
    namesOpcode (front ++ back) = false := by
  obtain ⟨illegal, others⟩ := List.forall_mem_cons.mp apart
  have unknown := List.forall_mem_singleton.mp others
  rw [namesOpcode, String.toList_append, Bool.or_eq_false_iff]
  exact ⟨isPrefixOf_append_eq_false illegal.1 illegal.2, isPrefixOf_append_eq_false unknown.1 unknown.2⟩

/-- No other cause is worded like an opcode that is not assigned. -/
theorem namesOpcode_reason (reason : Reason) : namesOpcode reason.message = false := by
  cases reason with
  | castFlags | atomicOrdering => exact namesOpcode_append (by decide)
  | integerTooLong | integerTooLarge | catchKind | exportKind | afterNumber =>
      dsimp only [Reason.message]
      rewrite [String.append_assoc]
      exact namesOpcode_append (by decide)
  | _ => rfl

theorem namesOpcode_refused (op : Opcode) : namesOpcode op.refused = true := by
  rw [namesOpcode, Bool.or_eq_true, List.isPrefixOf_iff_prefix, List.isPrefixOf_iff_prefix, Opcode.refused]
  cases op.sub with
  | none =>
      left
      rw [String.toList_append]
      exact List.prefix_append_of_prefix (by decide)
  | some sub =>
      right
      have number : "unknown 0x".toList <+: ("unknown " ++ Numeral.hex op.byte.toNat).toList := by
        have lead : "unknown 0x".toList = "unknown ".toList ++ "0x".toList := by decide
        rw [lead, Numeral.hex, String.toList_append, String.toList_append, ← List.append_assoc]
        exact List.prefix_append ..
      rw [String.toList_append, String.toList_append]
      exact List.prefix_append_of_prefix (List.prefix_append_of_prefix number)

end Refusal

/-! ## Opcodes -/

namespace FunctionBody

variable {payload : Bytes} {bodies : List FunctionBody} {body : FunctionBody} {fault : CodeFault}

/-- Where a body begins in the section. -/
theorem start_eq {before : Bytes} (split : payload = before ++ (body.contents ++ body.rest)) :
    body.start payload = before.length :=
  offset_eq split

/-- From the offset of a place in the body the place is found again. -/
theorem from?_place {before front place : Bytes} (split : payload = before ++ (body.contents ++ body.rest))
    (inside : body.contents = front ++ place) :
    body.start payload ≤ body.offset payload place ∧
      Bytes.from? (body.offset payload place - body.start payload) body.contents = some place := by
  have whole : payload = (before ++ front) ++ (place ++ body.rest) := by
    rw [split, inside, List.append_assoc, List.append_assoc]
  rw [start_eq split, offset_eq whole, List.length_append, Nat.add_sub_cancel_left, inside]
  exact ⟨Nat.le_add_right .., Bytes.from?_length front place⟩

/-- The opcode that is read again is the one that was refused, and there is none for any other fault. -/
theorem unknownOpcode?_refusal (framed : Framed payload bodies) (member : body ∈ bodies)
    (found : body.finding? = some (body, .unreadable fault)) :
    body.unknownOpcode? payload (body.refusal payload fault) = fault.opcode? := by
  obtain ⟨i, at_i⟩ := List.mem_iff_getElem?.mp member
  obtain ⟨-, short, before, split⟩ := framed.body at_i
  cases fault with
  | malformed fault =>
      have other : Refusal.namesOpcode fault.reason.message = false := Refusal.namesOpcode_reason _
      simp only [unknownOpcode?, refusal, CodeFault.message, other]
      rfl
  | unknownOpcode op place =>
      obtain ⟨-, _, spelled, after, rfl, -, -, -, here, -⟩ := (finding?_eq_unknown_iff short).mp found
      obtain ⟨front, contents⟩ := inspect_suffix (finding?_eq_some_iff.mp found).2
      have inside : body.contents = front ++ (spelled ++ after) := contents.symm
      obtain ⟨behind, again⟩ := from?_place split inside
      have opcodeRead := Opcode.read_reads.accepted here after
      simp only [unknownOpcode?, refusal, refusedAt, CodeFault.message, Refusal.namesOpcode_refused, guard, if_true,
        behind, again, pure_bind, Option.bind_eq_bind, Option.bind_some, opcodeRead]
      rfl

/-- What is reported of a refusal is what the verdict says of the fault. -/
theorem reported_refusal (framed : Framed payload bodies) (member : body ∈ bodies)
    (found : body.finding? = some (body, .unreadable fault)) :
    (Verdict.ofFinding payload (some (body, .unreadable fault))).mapError ScanError.message =
      .error (body.reported payload (body.refusal payload fault)) := by
  rw [reported, unknownOpcode?_refusal framed member found]
  cases fault <;> rfl

end FunctionBody

end Memoryless
