import Memoryless.Proofs.UnknownOpcodes

/-!
# Where errors are reported

An error in the code comes with an offset. `Module.Blames` says what such an error promises: the function is
one that the section counts, those before it are clean, and the offset, counted from the start of the section,
lies in the body of the function, or right behind it where the body ends too soon. The opcode that an unknown
opcode is reported with stands at the offset, behind the local variables.

Whatever fails in a body fails at a place in it (`FunctionBody.inspect_suffix`), so all that is left is to
count. `FunctionBody.faultOffset` does not count from the start of the section everywhere: the offset of a
result arity counts from the start of the body, and may well be in the body of another function
(`Module.arity_blames_other`).
-/

namespace Memoryless

namespace FunctionBody

variable {body : FunctionBody} {payload before place : Bytes}

/-- A place in the body has an offset between the start of the body and its end. -/
theorem offset_between (split : payload = before ++ (body.contents ++ body.rest))
    (inside : place <:+ body.contents) :
    before.length ≤ body.offset payload place ∧ body.offset payload place ≤ (before ++ body.contents).length := by
  obtain ⟨passed, contents⟩ := inside
  rw [← contents, List.append_assoc, ← List.append_assoc] at split
  rw [offset_eq split, ← contents]
  simp only [List.length_append]
  omega

/-- The verdict that a body is malformed, with the place in the body that is to blame. -/
theorem verdict_eq_malformedBody_iff {function : UInt32} {offset : Nat} {reason : Reason} :
    body.verdict payload = .error (.malformedBody function offset reason) ↔
      function = body.index ∧ ∃ place, inspect body.contents = some (.unreadable (.malformed ⟨reason, place⟩)) ∧
        offset = body.faultOffset payload ⟨reason, place⟩ := by
  unfold verdict
  rw [Verdict.ofFinding_eq_malformedBody_iff]
  constructor
  · rintro ⟨other, place, found, numbered, counted⟩
    obtain ⟨rfl, inspected⟩ := finding?_eq_some_iff.mp found
    exact ⟨numbered, place, inspected, counted⟩
  · rintro ⟨numbered, place, inspected, counted⟩
    exact ⟨body, place, finding?_eq_some_iff.mpr ⟨rfl, inspected⟩, numbered, counted⟩

end FunctionBody

namespace Module

open FunctionBody

variable {m : Module} {code : Section} {bodies : List FunctionBody}

/-- The inspection comes to this function: it is among those that the section counts, this is its body, and those
before it are clean. -/
structure Inspects (m : Module) (function : UInt32) (payload : Bytes) (body : FunctionBody) : Prop where
  counted : ∃ count rows, Leb128.u32 payload = .ok (count, rows) ∧ function < count
  first : ∃ code bodies, m.section? .code = some code ∧ code.payload = payload ∧ Framed payload bodies ∧
    bodies[function.toNat]? = some body ∧ ∀ earlier ∈ bodies.take function.toNat, earlier.Clean

/-- What an error blames, and where the offset that it gives stands next to that. -/
inductive Blames (m : Module) : ScanError → Prop
  | code {code : Section} {offset : Nat} {reason : Reason} :
    m.section? .code = some code → offset ≤ code.payload.length →
    Blames m (.malformedCode offset reason)
  | body {function : UInt32} {payload before : Bytes} {body : FunctionBody} {offset : Nat} {reason : Reason} :
    reason ≠ .resultArity → m.Inspects function payload body →
    payload = before ++ (body.contents ++ body.rest) → before.length ≤ offset →
    offset ≤ (before ++ body.contents).length → Blames m (.malformedBody function offset reason)
  /-- The offset of the place behind the arity, counted from the start of the body. -/
  | arity {function : UInt32} {payload passed place : Bytes} {body : FunctionBody} :
    m.Inspects function payload body → body.contents = passed ++ place →
    inspect body.contents = some (.unreadable (.malformed ⟨.resultArity, place⟩)) →
    Blames m (.malformedBody function passed.length .resultArity)
  | opcode {function : UInt32} {payload : Bytes} {body : FunctionBody} {op : Opcode} {offset : Nat} :
    m.Inspects function payload body → body.HasOpcodeAt payload op offset →
    Blames m (.unknownOpcode op function offset)

theorem Inspects.of_framed {function : UInt32} {body : FunctionBody} (found : m.section? .code = some code)
    (framed : Framed code.payload bodies) (at_i : bodies[function.toNat]? = some body)
    (before : ∀ earlier ∈ bodies.take function.toNat, earlier.Clean) :
    m.Inspects function code.payload body where
  counted := by
    obtain ⟨count, rows, counted, all⟩ := framed.counted
    refine ⟨count, rows, counted, ?_⟩
    rw [UInt32.lt_iff_toNat_lt, all]
    exact (List.getElem?_eq_some_iff.mp at_i).1
  first := ⟨code, bodies, found, rfl, framed, at_i, before⟩

theorem blames_malformedCode {offset : Nat} {reason : Reason}
    (failed : m.scan = .error (.malformedCode offset reason)) : m.Blames (.malformedCode offset reason) := by
  unfold scan at failed
  rcases bind_error_iff.mp failed with uncut | ⟨⟨payload, bodies⟩, -, found⟩
  · unfold Module.bodies at uncut
    split at uncut
    · cases uncut
    · rename_i code found
      split at uncut <;> cases uncut
      exact .code found (Bytes.offset_le _ _)
  · exact absurd found Verdict.ofFinding_ne_malformedCode

theorem blames_malformedBody {function : UInt32} {offset : Nat} {reason : Reason}
    (failed : m.scan = .error (.malformedBody function offset reason)) :
    m.Blames (.malformedBody function offset reason) := by
  obtain ⟨code, bodies, found, framed⟩ := exists_framed_of_scan failed nofun nofun
  have malformed : (.error (.malformedBody function offset reason) : Verdict) ≠ .ok none := nofun
  obtain ⟨body, at_i, clean, place, inspected, counted⟩ :=
    (scan_eq_iff_at found framed malformed fun _ _ => verdict_eq_malformedBody_iff).mp failed
  obtain ⟨-, -, before, split⟩ := framed.body at_i
  have first := Inspects.of_framed found framed at_i clean
  have inside : place <:+ body.contents := inspect_suffix inspected
  by_cases arity : reason = .resultArity
  · subst arity
    obtain ⟨passed, contents⟩ := inside
    rw [faultOffset, if_pos rfl, ← contents, Bytes.offset_append] at counted
    subst counted
    exact .arity first contents.symm inspected
  · rw [faultOffset, if_neg arity] at counted
    obtain ⟨behind, upTo⟩ := offset_between split inside
    exact .body arity first split (counted ▸ behind) (counted ▸ upTo)

theorem blames_unknownOpcode {op : Opcode} {function : UInt32} {offset : Nat}
    (failed : m.scan = .error (.unknownOpcode op function offset)) :
    m.Blames (.unknownOpcode op function offset) := by
  obtain ⟨code, bodies, found, framed⟩ := exists_framed_of_scan failed nofun nofun
  obtain ⟨body, at_i, clean, unassigned⟩ := (scan_unknown_iff found framed).mp failed
  obtain ⟨-, -, before, split⟩ := framed.body at_i
  exact .opcode (.of_framed found framed at_i clean) (unassigned.hasOpcodeAt split)

/-- Every error in the code is reported in what it blames, except that the offset of a result arity counts from
the start of its body. -/
theorem error_blames {error : ScanError} (failed : m.scan = .error error) : m.Blames error := by
  cases error with
  | unknownOpcode => exact blames_unknownOpcode failed
  | malformedBody => exact blames_malformedBody failed
  | malformedCode => exact blames_malformedCode failed

/-- An index in the second function that is cut off by the end of the body. -/
theorem error_blames_cut :
    scan ⟨[⟨.code, [2, 2, 0, 0x0b, 3, 0, 0x10, 0x80]⟩]⟩ = .error (.malformedBody 1 8 .endOfInput) ∧
      Blames ⟨[⟨.code, [2, 2, 0, 0x0b, 3, 0, 0x10, 0x80]⟩]⟩ (.malformedBody 1 8 .endOfInput) := by
  have failed : scan ⟨[⟨.code, [2, 2, 0, 0x0b, 3, 0, 0x10, 0x80]⟩]⟩ =
      .error (.malformedBody 1 8 .endOfInput) := by cbv
  exact ⟨failed, error_blames failed⟩

/-- The third function has a result arity of two, and begins at the offset 8. The offset 3 is in the body of the
first one. -/
theorem arity_blames_other :
    scan ⟨[⟨.code, [3, 2, 0, 0x0b, 2, 0, 0x0b, 4, 0, 0x1c, 2, 0x0b]⟩]⟩ =
        .error (.malformedBody 2 3 .resultArity) ∧
      ∃ bodies body before, parse [3, 2, 0, 0x0b, 2, 0, 0x0b, 4, 0, 0x1c, 2, 0x0b] = .ok bodies ∧
        bodies[2]? = some body ∧
        [3, 2, 0, 0x0b, 2, 0, 0x0b, 4, 0, 0x1c, 2, 0x0b] = before ++ (body.contents ++ body.rest) ∧
        ¬(before.length ≤ 3 ∧ 3 ≤ (before ++ body.contents).length) := by
  have cut : parse [3, 2, 0, 0x0b, 2, 0, 0x0b, 4, 0, 0x1c, 2, 0x0b] = .ok [
      ⟨0, [0, 0x0b], [2, 0, 0x0b, 4, 0, 0x1c, 2, 0x0b]⟩, ⟨1, [0, 0x0b], [4, 0, 0x1c, 2, 0x0b]⟩,
      ⟨2, [0, 0x1c, 2, 0x0b], []⟩] := by cbv
  exact ⟨by cbv, _, _, [3, 2, 0, 0x0b, 2, 0, 0x0b, 4], cut, rfl, rfl, by decide⟩

end Module

end Memoryless
