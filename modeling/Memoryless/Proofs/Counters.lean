import Memoryless.Proofs.MemoryGate

/-!
# Counters

The walk over a body counts open blocks, and the bodies of a section are numbered, both in 32 bits.
`FunctionBody.turn` is one turn of the walk, and `Reached` what the loop can have come to: the
instructions read, the count of open blocks, and the place. `Counted` is the invariant that ties these
together. Its part on lengths is what bounds the count: an instruction takes a byte, and one that opens
a block takes two, so at most half of the bytes of a body can open one (`counters_exact`).
-/

namespace Memoryless

/-! ## What an instruction takes -/

namespace Opcode

variable {op : Opcode}

/-- The type of a block follows each instruction that opens one. -/
theorem immediates?_of_opens (opens : op.nesting = .opens) :
    ∃ kinds, op.immediates? = some (.blockType :: kinds) := by
  obtain ⟨b, sub⟩ := op
  cases sub with
  | some n => cases opens
  | none =>
      simp only [nesting] at opens
      split at opens
      · rename_i opener
        simp only [List.mem_cons, List.not_mem_nil, or_false] at opener
        rcases opener with rfl | rfl | rfl | rfl | rfl <;> exact ⟨_, rfl⟩
      · split at opens <;> cases opens

/-- How many of the instructions open a block. -/
def openers (ops : List Opcode) : Nat :=
  ops.countP fun op => op.nesting = .opens

/-- How many of the instructions close one. -/
def closers (ops : List Opcode) : Nat :=
  ops.countP fun op => op.nesting = .closes

theorem openers_concat (ops : List Opcode) (op : Opcode) :
    openers (ops ++ [op]) = openers ops + if op.nesting = .opens then 1 else 0 := by
  simp [openers, List.countP_cons]

theorem closers_concat (ops : List Opcode) (op : Opcode) :
    closers (ops ++ [op]) = closers ops + if op.nesting = .closes then 1 else 0 := by
  simp [closers, List.countP_cons]

end Opcode

/-- An instruction that opens a block takes at least two bytes. -/
theorem Instruction.next_opens_shorter {s rest : Bytes} {op : Opcode}
    (read : next s = .ok (op, rest)) (opens : op.nesting = .opens) : rest.length + 2 ≤ s.length := by
  obtain ⟨afterOpcode, kinds, opcodeRead, assigned, skipped⟩ := next_ok read
  obtain ⟨more, blockFirst⟩ := Opcode.immediates?_of_opens opens
  rw [blockFirst] at assigned
  cases assigned
  obtain ⟨_, middle, block, later⟩ := Reader.bind_ok skipped
  have first := Opcode.read_advances opcodeRead
  have second : middle.length < afterOpcode.length := WasmType.skipBlock_advances block
  have others := ((Immediate.skipAll_within more).rest_suffix later).length_le
  omega

namespace FunctionBody

open Instruction Opcode

/-! ## Turns of the walk -/

/-- What a turn of the walk comes to: it stops, or goes on behind an instruction. -/
inductive Turn
  | stop (found : Option Finding)
  | next (op : Opcode) (depth : UInt32) (rest : Bytes)

/-- One turn of the walk, with `depth` blocks open. -/
def turn (depth : UInt32) : Bytes → Turn
  | [] => .stop (some (.unreadable (.malformed ⟨.missingEnd, []⟩)))
  | b :: s =>
    match Instruction.next (b :: s) with
    | .error fault => .stop (some (.unreadable fault))
    | .ok (op, rest) =>
      match MemoryOpcode.ofOpcode? op with
      | some found => .stop (some (.access found (b :: s)))
      | none =>
        match op.nesting with
        | .opens => .next op (depth + 1) rest
        | .level => .next op depth rest
        | .closes => if depth = 0 then .stop (afterClose rest) else .next op (depth - 1) rest

/-- The walk is its turns, up to the first that stops. -/
theorem walk_eq_turn (depth : UInt32) (s : Bytes) :
    walk depth s =
      match turn depth s with
      | .stop found => found
      | .next _ reached rest => walk reached rest := by
  cases s with
  | nil => rw [walk, turn]
  | cons b s =>
      rw [walk_cons, turn]
      cases Instruction.next (b :: s) with
      | error fault => rfl
      | ok pair =>
          obtain ⟨op, rest⟩ := pair
          dsimp only
          cases MemoryOpcode.ofOpcode? op with
          | some found => rfl
          | none =>
              dsimp only
              cases op.nesting with
              | opens => rfl
              | level => rfl
              | closes => by_cases outermost : depth = 0 <;> simp only [outermost, if_true, if_false]

/-- A turn that goes on has read an instruction that needs no memory, and has counted it. -/
theorem turn_next {depth reached : UInt32} {s rest : Bytes} {op : Opcode}
    (turned : turn depth s = .next op reached rest) :
    Instruction.next s = .ok (op, rest) ∧
      (op.nesting = .opens ∧ reached = depth + 1 ∨ op.nesting = .level ∧ reached = depth ∨
        op.nesting = .closes ∧ depth ≠ 0 ∧ reached = depth - 1) := by
  cases s with
  | nil => cases turned
  | cons b s =>
      rw [turn] at turned
      split at turned
      · cases turned
      · rename_i found left read
        split at turned
        · cases turned
        · split at turned
          · rename_i kind
            cases turned
            exact ⟨read, .inl ⟨kind, rfl⟩⟩
          · rename_i kind
            cases turned
            exact ⟨read, .inr (.inl ⟨kind, rfl⟩)⟩
          · rename_i kind
            split at turned
            · cases turned
            · rename_i inside
              cases turned
              exact ⟨read, .inr (.inr ⟨kind, inside, rfl⟩)⟩

/-- Where the walk can have come to from `start`: the instructions read, the blocks counted as open,
and the place. -/
inductive Reached (start : Bytes) : List Opcode → UInt32 → Bytes → Prop
  | start : Reached start [] 0 start
  | onward {ops : List Opcode} {depth reached : UInt32} {place rest : Bytes} {op : Opcode} :
    Reached start ops depth place → turn depth place = .next op reached rest →
    Reached start (ops ++ [op]) reached rest

/-- What is counted is what was read, and every instruction has taken its bytes. -/
structure Counted (start : Bytes) (ops : List Opcode) (depth : UInt32) (place : Bytes) : Prop where
  run : Run start ops place
  balance : depth.toNat + closers ops = openers ops
  room : ops.length + openers ops + place.length ≤ start.length

variable {start place rest : Bytes} {ops : List Opcode} {depth reached : UInt32} {op : Opcode}

theorem openers_le (ops : List Opcode) : openers ops ≤ ops.length :=
  List.countP_le_length

/-- At most half of the bytes open a block. -/
theorem Counted.depth_lt (counted : Counted start ops depth place) (short : start.length + 1 < 2 ^ 32) :
    depth.toNat < 2 ^ 31 := by
  have balance := counted.balance
  have room := counted.room
  have few := openers_le ops
  omega

theorem Counted.onward (counted : Counted start ops depth place) (short : start.length + 1 < 2 ^ 32)
    (turned : turn depth place = .next op reached rest) :
    Counted start (ops ++ [op]) reached rest := by
  obtain ⟨read, cases⟩ := turn_next turned
  have run := counted.run.append (.cons read .nil)
  have balance := counted.balance
  have room := counted.room
  have below := counted.depth_lt short
  have shorter := next_shorter read
  obtain ⟨kind, rfl⟩ | ⟨kind, rfl⟩ | ⟨kind, inside, rfl⟩ := cases
  · have two := next_opens_shorter read kind
    have above := toNat_add_one depth (by omega)
    have opened : openers (ops ++ [op]) = openers ops + 1 := by
      rw [openers_concat, if_pos kind]
    have closed : closers (ops ++ [op]) = closers ops := by
      rw [closers_concat, kind]; rfl
    exact ⟨run, by omega, by rw [List.length_append, List.length_singleton]; omega⟩
  · have opened : openers (ops ++ [op]) = openers ops := by
      rw [openers_concat, kind]; rfl
    have closed : closers (ops ++ [op]) = closers ops := by
      rw [closers_concat, kind]; rfl
    exact ⟨run, by omega, by rw [List.length_append, List.length_singleton]; omega⟩
  · have positive : 0 < depth.toNat :=
      Nat.pos_of_ne_zero fun zero => inside (UInt32.toNat_inj.mp zero)
    have below := toNat_sub_one depth positive
    have opened : openers (ops ++ [op]) = openers ops := by
      rw [openers_concat, kind]; rfl
    have closed : closers (ops ++ [op]) = closers ops + 1 := by
      rw [closers_concat, if_pos kind]
    exact ⟨run, by omega, by rw [List.length_append, List.length_singleton]; omega⟩

/-- The invariant holds wherever the walk comes to, in a body that fits its size. -/
theorem Reached.counted (reaches : Reached start ops depth place) (short : start.length + 1 < 2 ^ 32) :
    Counted start ops depth place := by
  induction reaches with
  | start => exact ⟨.nil, rfl, Nat.le_of_eq (Nat.zero_add _)⟩
  | onward _ turned ih => exact ih.onward short turned

theorem Reached.walk_eq (reaches : Reached start ops depth place) : walk 0 start = walk depth place := by
  induction reaches with
  | start => rfl
  | onward _ turned ih => rw [ih, walk_eq_turn, turned]

/-- From everywhere the walk comes to a turn that stops. -/
theorem Reached.exists_stop (reaches : Reached start ops depth place) :
    ∃ ops depth place found, Reached start ops depth place ∧ turn depth place = .stop found := by
  -- On the bytes that are left: a turn that goes on takes at least one.
  induction length : place.length using Nat.strongRecOn generalizing ops depth place with
  | ind n ih =>
      cases turned : turn depth place with
      | stop found => exact ⟨ops, depth, place, found, reaches, turned⟩
      | next op reached rest =>
          have shorter := next_shorter (turn_next turned).1
          exact ih rest.length (length ▸ shorter) (reaches.onward turned) rfl

end FunctionBody

/-! ## Numbers of bodies -/

/-- Readings in a row take as many bytes as there are readings, if each takes one. -/
theorem Reader.Advances.times {α : Type} {r : Reader α} (each : r.Advances) {n : Nat} {s rest : Bytes}
    {all : List α} (run : Reader.times n r s = .ok (all, rest)) :
    all.length = n ∧ n + rest.length ≤ s.length := by
  induction n generalizing s all with
  | zero => cases run; exact ⟨rfl, Nat.le_of_eq (Nat.zero_add _)⟩
  | succ n ih =>
      rw [times_succ] at run
      obtain ⟨a, middle, first, later⟩ := bind_ok run
      obtain ⟨others, left, rest', made⟩ := bind_ok later
      cases made
      have shorter := each first
      obtain ⟨length, room⟩ := ih rest'
      exact ⟨congrArg (· + 1) length, by omega⟩

namespace FunctionBody

open Instruction Opcode

theorem skipLocals_advances : skipLocals.Advances :=
  Reader.Advances.bind Leb128.u32_advances fun _ =>
    (Leb128.u32_within.pass.bind fun _ => WasmType.skipValue_within).skip _

theorem read_advances : read.Advances :=
  Reader.Advances.bind Leb128.u32_advances fun size => (readContents_within size.toNat).bind fun _ =>
    Reader.Within.get.bind fun _ => .pure _

theorem indices_number {parts : List (Bytes × Bytes)} (few : parts.length < 2 ^ 32) :
    (number 0 parts).map (fun body => body.index.toNat) = List.range parts.length := by
  apply List.ext_getElem
  · rw [List.length_map, length_number, List.length_range]
  · intro i among _
    rw [List.length_map, length_number] at among
    simp only [number, List.getElem_map, List.getElem_mapIdx, List.getElem_range, Nat.zero_add]
    rw [Nat.toUInt32_eq, UInt32.toNat_ofNat_of_lt']
    exact Nat.lt_trans among few

/-- The counts are exact. In a section of less than 2³² bytes the number of each body is its place, for as
many bodies as can be read, and so is the next number. In every body that is cut out of a section, the
blocks counted as open are those that were opened less those that were closed, fewer than 2³¹, and each
turn that goes on takes a byte, so the walk stops. -/
theorem counters_exact (payload : Bytes) :
    (payload.length < 2 ^ 32 → ∀ n parts left,
      (do let _ ← Leb128.u32; Reader.times n read : Reader _) payload = .ok (parts, left) →
        (number 0 parts).map (fun body => body.index.toNat) = List.range n ∧ n + 1 < 2 ^ 32) ∧
      ∀ bodies, Framed payload bodies →
        bodies.map (fun body => body.index.toNat) = List.range bodies.length ∧
        ∀ body ∈ bodies, ∀ start, skipLocals body.contents = .ok ((), start) →
          (∀ ops depth place, Reached start ops depth place →
            Run start ops place ∧ walk depth place = inspect body.contents ∧
            depth.toNat + closers ops = openers ops ∧ depth.toNat < 2 ^ 31 ∧
            ∀ op reached rest, turn depth place = .next op reached rest →
              rest.length < place.length) ∧
          ∃ ops depth place, Reached start ops depth place ∧
            turn depth place = .stop (inspect body.contents) := by
  refine ⟨fun short n parts left run => ?_, fun bodies framed => ⟨framed.indices, ?_⟩⟩
  · obtain ⟨count, rows, counted, read⟩ := Reader.bind_ok run
    have taken := Leb128.u32_advances counted
    obtain ⟨rfl, room⟩ := Reader.Advances.times read_advances read
    exact ⟨indices_number (by omega), by omega⟩
  · intro body member start localsRead
    obtain ⟨i, at_i⟩ := List.mem_iff_getElem?.mp member
    obtain ⟨-, fits, -⟩ := framed.body at_i
    -- The number of local groups takes a byte, so not all of the body is left for instructions.
    have taken : start.length < body.contents.length := skipLocals_advances localsRead
    have short : start.length + 1 < 2 ^ 32 := by omega
    have inspected : inspect body.contents = walk 0 start := by
      unfold inspect
      rw [localsRead]
    refine ⟨fun ops depth place reaches => ?_, ?_⟩
    · have counted := reaches.counted short
      refine ⟨counted.run, by rw [inspected, reaches.walk_eq], counted.balance, counted.depth_lt short, ?_⟩
      exact fun op reached rest turned => next_shorter (turn_next turned).1
    · have begun : Reached start [] 0 start := .start
      obtain ⟨ops, depth, place, found, reaches, stops⟩ := begun.exists_stop
      refine ⟨ops, depth, place, reaches, ?_⟩
      rw [inspected, reaches.walk_eq, walk_eq_turn, stops]

/-- In a block, between the instruction that opens it and the one that closes it. -/
theorem counters_exact_block :
    Framed [1, 6, 0, 0x02, 0x40, 0x01, 0x0b, 0x0b] [⟨0, [0, 0x02, 0x40, 0x01, 0x0b, 0x0b], []⟩] ∧
      Reached [0x02, 0x40, 0x01, 0x0b, 0x0b] [.single 0x02, .single 0x01] 1 [0x0b, 0x0b] ∧
      (1 : UInt32).toNat + closers [.single 0x02, .single 0x01] =
        openers [.single 0x02, .single 0x01] ∧
      walk 1 [0x0b, 0x0b] = inspect [0, 0x02, 0x40, 0x01, 0x0b, 0x0b] := by
  have framed : Framed [1, 6, 0, 0x02, 0x40, 0x01, 0x0b, 0x0b]
      [⟨0, [0, 0x02, 0x40, 0x01, 0x0b, 0x0b], []⟩] :=
    parse_ok_iff.mp (by cbv)
  have opened : turn 0 [0x02, 0x40, 0x01, 0x0b, 0x0b] = .next (.single 0x02) 1 [0x01, 0x0b, 0x0b] := by
    cbv
  have passed : turn 1 [0x01, 0x0b, 0x0b] = .next (.single 0x01) 1 [0x0b, 0x0b] := by
    cbv
  have reaches : Reached [0x02, 0x40, 0x01, 0x0b, 0x0b] [.single 0x02, .single 0x01] 1 [0x0b, 0x0b] :=
    .onward (.onward .start opened) passed
  have localsRead : skipLocals [0, 0x02, 0x40, 0x01, 0x0b, 0x0b] =
      .ok ((), [0x02, 0x40, 0x01, 0x0b, 0x0b]) := by
    cbv
  obtain ⟨-, each⟩ := (counters_exact _).2 _ framed
  obtain ⟨along, -⟩ := each _ List.mem_cons_self _ localsRead
  obtain ⟨-, walked, balance, -⟩ := along _ _ _ reaches
  exact ⟨framed, reaches, balance, walked⟩

end FunctionBody

end Memoryless
