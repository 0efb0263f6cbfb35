import Memoryless.Code.Walk
import Memoryless.Instruction.Operator
import Memoryless.Proofs.Forms

/-!
# Two ways to a memory instruction

An instruction is known by its opcode, which is looked up in the tables of `MemoryOpcode`, or by its operator.
`MemoryOpcode.ofOperator?_operator` is that both ways agree on every opcode, assigned or not. It is proved by
running through the opcodes with a small number (`Opcode.cases_below`); past the last row of the tables there
is nothing on either way.

The tables are complete as well: `MemoryOpcode.isSome_ofOpcode?` is that the memory instructions are exactly the
assigned instructions with an immediate that touches a memory. So a memory instruction with readable immediates
is always read, in any spelling of its opcode, and `FunctionBody.walk_cons_operator` is that the walk over a body
goes by the operator.
-/

namespace Memoryless

namespace Opcode

/-! ## Opcodes in the code -/

/-- A byte that opens no page; or a lead byte, and a number in any form. -/
inductive Spells : Form Opcode
  | single {b : UInt8} : OpcodePage.ofLead? b = none → Spells [b] (.single b)
  | numbered {page : OpcodePage} {number : Bytes} {sub : UInt32} :
    Leb128.Spells 32 number sub.toNat → Spells (page.lead :: number) (.numbered page.lead sub)

theorem read_reads : read.Reads Spells where
  taken run := by
    obtain ⟨b, middle, first, later⟩ := Reader.bind_ok run
    obtain ⟨_, rfl, rfl⟩ := Reader.Reads.byte.taken first
    cases opens : OpcodePage.ofLead? b with
    | none =>
        rw [opens] at later
        cases later
        exact ⟨[b], rfl, .single opens⟩
    | some page =>
        rw [opens] at later
        obtain ⟨sub, back, numberRead, made⟩ := Reader.bind_ok later
        cases made
        obtain ⟨number, rfl, here⟩ := Leb128.u32_reads.taken numberRead
        obtain rfl := OpcodePage.lead_of_ofLead? opens
        exact ⟨page.lead :: number, rfl, .numbered here⟩
  accepted here rest := by
    cases here with
    | single opens =>
        simp only [read, Bind.bind, StateT.bind, Except.bind, List.singleton_append, Reader.byte, opens]
        rfl
    | @numbered page number sub here =>
        have opens := OpcodePage.ofLead?_lead page
        have numberRead := Leb128.u32_reads.accepted here rest
        simp only [read, Bind.bind, StateT.bind, Except.bind, List.cons_append, Reader.byte, opens, numberRead]
        rfl

/-! ## Opcodes by number -/

/-- The number that tells an opcode from the others with the same lead byte, or with none. -/
def number : Opcode → Nat
  | ⟨b, none⟩ => b.toNat
  | ⟨_, some sub⟩ => sub.toNat

/-- Behind the last of the memory instructions, or on no page at all. -/
inductive Beyond : Opcode → Prop
  | large {op : Opcode} : 0x5e ≤ op.number → Beyond op
  | stray {b : UInt8} {sub : UInt32} : OpcodePage.ofLead? b = none → Beyond (.numbered b sub)

/-- Only so many opcodes may have to do with a memory. -/
theorem cases_below {P : Opcode → Prop} (bytes : ∀ n < 0x5e, P (.single (UInt8.ofNat n)))
    (pages : ∀ page : OpcodePage, ∀ n < 0x5e, P (.numbered page.lead (UInt32.ofNat n)))
    (beyond : ∀ op, Beyond op → P op) (op : Opcode) : P op := by
  by_cases small : op.number < 0x5e
  · rcases op with ⟨b, _ | sub⟩
    · have here := bytes b.toNat small
      rwa [UInt8.ofNat_toNat] at here
    · cases opens : OpcodePage.ofLead? b with
      | none => exact beyond _ (.stray opens)
      | some page =>
          obtain rfl := OpcodePage.lead_of_ofLead? opens
          have here := pages page sub.toNat small
          rwa [UInt32.ofNat_toNat] at here
  · exact beyond op (.large (Nat.le_of_not_lt small))

end Opcode

/-- No row that passes the test reaches as far as `n`. -/
theorem InstructionRow.any_lookup?_eq_false {rows : List InstructionRow} {n : Nat} {test : List Immediate → Bool}
    (past : ∀ row ∈ rows, test row.immediates = true → row.last < n) : (lookup? rows n).any test = false := by
  unfold lookup?
  cases found : rows.find? fun row => row.contains n with
  | none => rfl
  | some row =>
      have inside := List.find?_some found
      have before := past row (List.mem_of_find?_eq_some found)
      simp only [contains, Bool.and_eq_true, decide_eq_true_eq] at inside
      rw [Option.map_some, Option.any_some, Bool.eq_false_iff]
      intro passes
      have short := before passes
      omega

theorem OperatorRow.lookup?_eq_none {rows : List OperatorRow} {n : Nat}
    (past : ∀ row ∈ rows, row.first + row.operators.length ≤ n) : lookup? rows n = none := by
  unfold lookup?
  rw [List.findSome?_eq_none_iff]
  intro row member
  have before := past row member
  rw [operator?, if_pos (by omega), List.getElem?_eq_none_iff]
  omega

namespace Opcode

/-- Is the opcode assigned to an instruction with an immediate that touches a memory? -/
def touchesMemory (op : Opcode) : Bool :=
  op.immediates?.any fun kinds => kinds.any Immediate.touchesMemory

theorem Beyond.touchesMemory_eq {op : Opcode} (beyond : op.Beyond) : op.touchesMemory = false := by
  -- On every page the rows go on, but none of the later ones is about a memory.
  have bytes : ∀ row ∈ InstructionSet.single,
      row.immediates.any Immediate.touchesMemory = true → row.last < 0x5e := by decide
  have pages : ∀ page, ∀ row ∈ InstructionSet.page page,
      row.immediates.any Immediate.touchesMemory = true → row.last < 0x5e := by
    intro page
    cases page <;> decide
  cases beyond with
  | stray opens => simp only [touchesMemory, immediates?, numbered, opens, Option.any_none]
  | large far =>
      rcases op with ⟨b, _ | sub⟩
      · exact InstructionRow.any_lookup?_eq_false fun row member touches =>
          Nat.lt_of_lt_of_le (bytes row member touches) far
      · simp only [touchesMemory, immediates?]
        cases OpcodePage.ofLead? b with
        | none => rfl
        | some page =>
            exact InstructionRow.any_lookup?_eq_false fun row member touches =>
              Nat.lt_of_lt_of_le (pages page row member touches) far

theorem Beyond.memoryOperator?_eq {op : Opcode} (beyond : op.Beyond) : op.memoryOperator? = none := by
  have bytes : ∀ row ∈ OperatorSet.single, row.first + row.operators.length ≤ 0x5e := by decide
  have pages : ∀ page, ∀ row ∈ OperatorSet.page page, row.first + row.operators.length ≤ 0x5e := by
    intro page
    cases page <;> decide
  cases beyond with
  | stray opens => simp only [memoryOperator?, numbered, opens]
  | large far =>
      rcases op with ⟨b, _ | sub⟩
      · exact OperatorRow.lookup?_eq_none fun row member => Nat.le_trans (bytes row member) far
      · simp only [memoryOperator?]
        cases OpcodePage.ofLead? b with
        | none => rfl
        | some page =>
            exact OperatorRow.lookup?_eq_none fun row member => Nat.le_trans (pages page row member) far

theorem Beyond.operator_eq {op : Opcode} (beyond : op.Beyond) : op.operator = .other op := by
  rw [operator, beyond.memoryOperator?_eq, Option.getD_none]

end Opcode

namespace MemoryOpcode

variable {op : Opcode} {found : MemoryOpcode}

theorem ofByte?_eq_some {b : UInt8} (known : ofByte? b = some found) :
    found.opcode = .single b ∧ b.toNat < 0x5e := by
  refine ⟨ofByte?_eq_some_iff.mp known, ?_⟩
  unfold ofByte? at known
  split at known <;> cases known <;> decide

theorem ofMisc?_eq_some {sub : UInt32} (known : ofMisc? sub = some found) :
    found.opcode = .numbered OpcodePage.misc.lead sub ∧ sub.toNat < 0x5e := by
  refine ⟨ofMisc?_eq_some_iff.mp known, ?_⟩
  unfold ofMisc? at known
  split at known <;> cases known <;> decide

theorem onPage?_eq_some {page : OpcodePage} {sub : UInt32} (known : onPage? page sub = some found) :
    found.opcode = .numbered page.lead sub ∧ sub.toNat < 0x5e := by
  cases page with
  | gc => cases known
  | misc => exact ofMisc?_eq_some known
  | vector | atomic =>
      simp only [onPage?, ofVector?, ofAtomic?, Bool.or_eq_true, Bool.and_eq_true, decide_eq_true_eq,
        UInt32.le_iff_toNat_le, UInt32.reduceToNat] at known
      split at known <;> cases known
      exact ⟨rfl, by omega⟩

theorem ofOpcode?_stray {b : UInt8} {sub : UInt32} (opens : OpcodePage.ofLead? b = none) :
    ofOpcode? (.numbered b sub) = none := by
  simp only [ofOpcode?, Opcode.numbered, opens]
  rfl

theorem ofOpcode?_numbered {page : OpcodePage} {sub : UInt32} :
    ofOpcode? (.numbered page.lead sub) = onPage? page sub := by
  simp only [ofOpcode?, Opcode.numbered, OpcodePage.ofLead?_lead]
  rfl

/-- What is found by an opcode has that opcode, and its number is small. -/
theorem ofOpcode?_eq_some (known : ofOpcode? op = some found) : found.opcode = op ∧ op.number < 0x5e := by
  rcases op with ⟨b, _ | sub⟩
  · exact ofByte?_eq_some known
  · cases opens : OpcodePage.ofLead? b with
    | none => cases (ofOpcode?_stray opens).symm.trans known
    | some page =>
        obtain rfl := OpcodePage.lead_of_ofLead? opens
        exact onPage?_eq_some (ofOpcode?_numbered.symm.trans known)

/-! ## The two ways agree -/

theorem ofOpcode?_of_beyond (beyond : op.Beyond) : ofOpcode? op = none := by
  cases beyond with
  | stray opens => exact ofOpcode?_stray opens
  | large far =>
      apply Option.eq_none_iff_forall_ne_some.mpr
      intro found known
      exact Nat.not_lt_of_le far (ofOpcode?_eq_some known).2

theorem ofOperator?_operator (op : Opcode) : ofOperator? op.operator = ofOpcode? op := by
  induction op using Opcode.cases_below with
  | bytes n => revert n; decide +kernel
  | pages page n => revert n; cases page <;> decide +kernel
  | beyond op beyond =>
      rw [ofOpcode?_of_beyond beyond, beyond.operator_eq]
      rfl

/-- The memory instructions are those with an immediate that touches a memory. -/
theorem isSome_ofOpcode? (op : Opcode) : (ofOpcode? op).isSome = op.touchesMemory := by
  induction op using Opcode.cases_below with
  | bytes n => revert n; decide +kernel
  | pages page n => revert n; cases page <;> decide +kernel
  | beyond op beyond =>
      rw [ofOpcode?_of_beyond beyond, beyond.touchesMemory_eq]
      rfl

/-- An operator nests as its opcode does: none of the memory instructions opens or closes a block. -/
theorem nesting_operator (op : Opcode) : op.operator.nesting = op.nesting := by
  induction op using Opcode.cases_below with
  | bytes n => revert n; decide +kernel
  | pages page n => revert n; cases page <;> decide +kernel
  | beyond op beyond =>
      rw [beyond.operator_eq]
      rfl

end MemoryOpcode

/-! ## Instructions in the code -/

namespace Instruction

/-- An instruction is read exactly from an opcode in any form, if it is assigned, and readable immediates. -/
theorem next_ok_iff {s rest : Bytes} {op : Opcode} :
    next s = .ok (op, rest) ↔
      ∃ front after kinds, s = front ++ after ∧ Opcode.Spells front op ∧ op.immediates? = some kinds ∧
        Immediate.skipAll kinds after = .ok ((), rest) := by
  constructor
  · intro run
    obtain ⟨after, kinds, opcodeRead, assigned, skipped⟩ := next_ok run
    obtain ⟨front, rfl, here⟩ := Opcode.read_reads.taken opcodeRead
    exact ⟨front, after, kinds, rfl, here, assigned, skipped⟩
  · rintro ⟨front, after, kinds, rfl, here, assigned, skipped⟩
    simp only [next, Opcode.read_reads.accepted here after, assigned, skipped]

end Instruction

namespace Operator

theorem read_ok_iff {s rest : Bytes} {operator : Operator} :
    read s = .ok (operator, rest) ↔ ∃ op, Instruction.next s = .ok (op, rest) ∧ op.operator = operator := by
  unfold read
  rw [map_ok_iff]
  constructor
  · rintro ⟨⟨op, _⟩, run, made⟩
    cases made
    exact ⟨op, run, rfl⟩
  · rintro ⟨op, run, rfl⟩
    exact ⟨(op, rest), run, rfl⟩

end Operator

namespace FunctionBody

/-- The walk goes by the operator. -/
theorem walk_cons_operator (depth : UInt32) (b : UInt8) (s : Bytes) :
    walk depth (b :: s) =
      match Operator.read (b :: s) with
      | .error fault => some (.unreadable fault)
      | .ok (operator, rest) =>
        match MemoryOpcode.ofOperator? operator with
        | some found => some (.access found (b :: s))
        | none =>
          match operator.nesting with
          | .opens => walk (depth + 1) rest
          | .level => walk depth rest
          | .closes => if depth = 0 then afterClose rest else walk (depth - 1) rest := by
  rw [walk_cons, Operator.read]
  cases Instruction.next (b :: s) with
  | error fault => rfl
  | ok result =>
      dsimp only [Except.map]
      rw [MemoryOpcode.ofOperator?_operator]
      exact MemoryOpcode.nesting_operator result.1 ▸ rfl

end FunctionBody

namespace Opcode

/-- What the instructions with an opcode are: all of them this memory instruction, or none of them any. -/
structure Denotes (op : Opcode) (instruction? : Option MemoryOpcode) : Prop where
  /-- Whatever the spelling of the opcode and the immediates, the operator that is read is classified so. -/
  classified : ∀ {front after rest operator}, Spells front op →
    Operator.read (front ++ after) = .ok (operator, rest) →
    MemoryOpcode.ofOperator? operator = instruction?
  /-- The memory instruction has this opcode. -/
  opcode : ∀ {found}, instruction? = some found → found.opcode = op
  /-- A memory instruction is assigned, so it is read if its immediates can be. -/
  readable : ∀ {found}, instruction? = some found → ∃ kinds, op.immediates? = some kinds ∧
    ∀ {front after rest}, Spells front op → Immediate.skipAll kinds after = .ok ((), rest) →
      ∃ operator, Operator.read (front ++ after) = .ok (operator, rest) ∧
        MemoryOpcode.ofOperator? operator = some found

theorem exists_immediates_of_touchesMemory {op : Opcode} (touches : op.touchesMemory = true) :
    ∃ kinds, op.immediates? = some kinds := by
  unfold touchesMemory at touches
  cases assigned : op.immediates? with
  | none =>
      rw [assigned] at touches
      cases touches
  | some kinds => exact ⟨kinds, rfl⟩

theorem denotes_ofOpcode? (op : Opcode) : op.Denotes (MemoryOpcode.ofOpcode? op) where
  classified {front after rest operator} here run := by
    obtain ⟨other, read, rfl⟩ := Operator.read_ok_iff.mp run
    obtain ⟨_, _, opcodeRead, -⟩ := Instruction.next_ok read
    rw [read_reads.accepted here after] at opcodeRead
    cases opcodeRead
    exact MemoryOpcode.ofOperator?_operator op
  opcode known := (MemoryOpcode.ofOpcode?_eq_some known).1
  readable {found} known := by
    -- That it is assigned is known by its immediates: one of them touches a memory.
    have touches : op.touchesMemory = true := by
      rw [← MemoryOpcode.isSome_ofOpcode?, known, Option.isSome_some]
    obtain ⟨kinds, assigned⟩ := exists_immediates_of_touchesMemory touches
    refine ⟨kinds, assigned, fun {front after rest} here skipped => ⟨op.operator, ?_, ?_⟩⟩
    · have read : Instruction.next (front ++ after) = .ok (op, rest) :=
        Instruction.next_ok_iff.mpr ⟨front, after, kinds, rfl, here, assigned, skipped⟩
      exact Operator.read_ok_iff.mpr ⟨op, read, rfl⟩
    · rw [MemoryOpcode.ofOperator?_operator, known]

theorem denotes_onPage? (page : OpcodePage) (sub : UInt32) :
    (numbered page.lead sub).Denotes (MemoryOpcode.onPage? page sub) :=
  MemoryOpcode.ofOpcode?_numbered ▸ denotes_ofOpcode? _

end Opcode

namespace MemoryOpcode

/-- Both ways lead from an instruction to the same memory instruction, and back to its opcode. -/
theorem classifications_agree :
    (∀ s rest operator, Operator.read s = .ok (operator, rest) →
      ∃ front op after, s = front ++ after ∧ Opcode.Spells front op) ∧
    (∀ b, OpcodePage.ofLead? b = none → (Opcode.single b).Denotes (ofByte? b)) ∧
    (∀ page : OpcodePage, ofByte? page.lead = none) ∧
    (∀ sub, (Opcode.numbered OpcodePage.gc.lead sub).Denotes none) ∧
    (∀ sub, (Opcode.numbered OpcodePage.misc.lead sub).Denotes (ofMisc? sub)) ∧
    (∀ sub, (Opcode.numbered OpcodePage.vector.lead sub).Denotes (ofVector? sub)) ∧
    ∀ sub, (Opcode.numbered OpcodePage.atomic.lead sub).Denotes (ofAtomic? sub) := by
  refine ⟨fun s rest operator run => ?_, fun b _ => Opcode.denotes_ofOpcode? (.single b), fun page => ?_,
    Opcode.denotes_onPage? .gc, Opcode.denotes_onPage? .misc, Opcode.denotes_onPage? .vector,
    Opcode.denotes_onPage? .atomic⟩
  · obtain ⟨op, read, -⟩ := Operator.read_ok_iff.mp run
    obtain ⟨front, after, _, split, here, -⟩ := Instruction.next_ok_iff.mp read
    exact ⟨front, op, after, split, here⟩
  · cases page <;> decide

/-- The number of a `memory.copy` may be padded. -/
theorem classifications_agree_padded :
    ∃ operator, Operator.read [0xfc, 0x8a, 0x80, 0x00, 0x00, 0x00] = .ok (operator, []) ∧
      ofOperator? operator = some memoryCopy := by
  have copies := classifications_agree.2.2.2.2.1 10
  have known : ofMisc? 10 = some memoryCopy := by decide
  obtain ⟨kinds, assigned, readable⟩ := copies.readable known
  cases assigned
  have spelled : Opcode.Spells [0xfc, 0x8a, 0x80, 0x00] (.numbered 0xfc 10) :=
    @Opcode.Spells.numbered .misc _ 10 (Leb128.u32_reads.whole.mp rfl)
  have skipped : Immediate.skipAll [.index .memory, .index .memory] [0x00, 0x00] = .ok ((), []) := by rfl
  exact readable spelled skipped

end MemoryOpcode

end Memoryless
