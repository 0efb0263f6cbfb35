import Mathlib
import Memoryless.Code.Walk

/-!
# Runs of instructions

`Instruction.Run` relates two places in the code by the instructions that are read between them, one
after the other. It knows nothing of depths or of memory. `Opcode.level` counts the blocks that such a
run leaves open, as an integer, and `Opcode.StaysOpen` says that the function is not closed on the way.

`FunctionBody.walk_eq_iff` describes the walk over a body in these words: it passes a run of
instructions that need no memory and leave the function open, and what it finds is what stops it there.
The walk counts in 32 bits; each block takes a byte to open, so the count of a body that fits its size
never wraps.
-/

namespace Memoryless

namespace Instruction

/-- The instructions that are read from one place to another. -/
inductive Run : Bytes → List Opcode → Bytes → Prop
  | nil {s : Bytes} : Run s [] s
  | cons {s middle rest : Bytes} {op : Opcode} {ops : List Opcode} :
    next s = .ok (op, middle) → Run middle ops rest → Run s (op :: ops) rest

theorem Run.suffix {s rest : Bytes} {ops : List Opcode} (run : Run s ops rest) : rest <:+ s := by
  induction run with
  | nil => exact List.suffix_rfl
  | cons read _ ih => exact ih.trans (next_suffix read)

theorem Run.append {s middle rest : Bytes} {first second : List Opcode} (left : Run s first middle)
    (right : Run middle second rest) : Run s (first ++ second) rest := by
  induction left with
  | nil => exact right
  | cons read _ ih => exact .cons read (ih right)

theorem Run.split {s rest : Bytes} {first second : List Opcode} (run : Run s (first ++ second) rest) :
    ∃ middle, Run s first middle ∧ Run middle second rest := by
  induction first generalizing s with
  | nil => exact ⟨s, .nil, run⟩
  | cons op first ih =>
      cases run with
      | cons read run =>
          obtain ⟨middle, left, right⟩ := ih run
          exact ⟨middle, .cons read left, right⟩

/-- A place is reached from another by one run at most. -/
theorem Run.unique {s rest : Bytes} {first second : List Opcode} (left : Run s first rest)
    (right : Run s second rest) : first = second := by
  induction left generalizing second with
  | nil =>
      cases right with
      | nil => rfl
      | cons read run =>
          have shorter := next_shorter read
          have kept := run.suffix.length_le
          omega
  | cons read run ih =>
      cases right with
      | nil =>
          have shorter := next_shorter read
          have kept := run.suffix.length_le
          omega
      | cons again later =>
          rw [read] at again
          cases again
          rw [ih later]

end Instruction

/-! ## Depths -/

namespace Opcode

/-- By how much an instruction changes the number of open blocks. -/
def change (op : Opcode) : Int :=
  match op.nesting with
  | .opens => 1
  | .level => 0
  | .closes => -1

/-- By how much instructions change the number of open blocks. -/
def level : List Opcode → Int
  | [] => 0
  | op :: ops => op.change + level ops

/-- With so many blocks open at first, none of the instructions closes the function. -/
def StaysOpen (depth : Int) (ops : List Opcode) : Prop :=
  ∀ front, front <+: ops → 0 ≤ depth + level front

theorem level_nil : level [] = 0 :=
  rfl

theorem level_cons {op : Opcode} {ops : List Opcode} : level (op :: ops) = op.change + level ops :=
  rfl

theorem level_append {first second : List Opcode} :
    level (first ++ second) = level first + level second := by
  induction first with
  | nil => rw [List.nil_append, level_nil, Int.zero_add]
  | cons op first ih => rw [List.cons_append, level_cons, level_cons, ih, Int.add_assoc]

/-- Only a closing instruction lowers the depth, and by one. -/
theorem change_ge (op : Opcode) : -1 ≤ op.change := by
  unfold change
  cases op.nesting <;> decide

theorem change_eq_neg_one_iff {op : Opcode} : op.change = -1 ↔ op.nesting = .closes := by
  unfold change
  cases op.nesting <;> decide

theorem StaysOpen.nonneg {depth : Int} {ops : List Opcode} (stays : StaysOpen depth ops) :
    0 ≤ depth + level ops :=
  stays ops List.prefix_rfl

theorem StaysOpen.start {depth : Int} {ops : List Opcode} (stays : StaysOpen depth ops) : 0 ≤ depth := by
  have empty := stays [] List.nil_prefix
  rwa [level_nil, Int.add_zero] at empty

theorem staysOpen_nil_iff {depth : Int} : StaysOpen depth [] ↔ 0 ≤ depth := by
  refine ⟨StaysOpen.start, fun positive front inside => ?_⟩
  rwa [List.prefix_nil.mp inside, level_nil, Int.add_zero]

theorem staysOpen_cons_iff {depth : Int} {op : Opcode} {ops : List Opcode} :
    StaysOpen depth (op :: ops) ↔ 0 ≤ depth ∧ StaysOpen (depth + op.change) ops := by
  refine ⟨fun stays => ?_, fun parts => ?_⟩
  · refine ⟨stays.start, fun front inside => ?_⟩
    have later := stays (op :: front) (List.cons_prefix_cons.mpr ⟨rfl, inside⟩)
    rwa [level_cons, ← Int.add_assoc] at later
  · intro front inside
    rcases parts with ⟨start, stays⟩
    cases front with
    | nil => rwa [level_nil, Int.add_zero]
    | cons first front =>
        obtain ⟨rfl, later⟩ := List.cons_prefix_cons.mp inside
        rw [level_cons, ← Int.add_assoc]
        exact stays front later

end Opcode

namespace FunctionBody

open Instruction Opcode

/-! ## Stops -/

/-- What is found at the place at which the walk stops, with `depth` blocks open. -/
inductive Stops (depth : Int) : Bytes → Option Finding → Prop
  | missing : Stops depth [] (some (.unreadable (.malformed ⟨.missingEnd, []⟩)))
  | unreadable {b : UInt8} {s : Bytes} {fault : CodeFault} :
    next (b :: s) = .error fault → Stops depth (b :: s) (some (.unreadable fault))
  | access {place rest : Bytes} {op : Opcode} {opcode : MemoryOpcode} :
    next place = .ok (op, rest) → MemoryOpcode.ofOpcode? op = some opcode →
    Stops depth place (some (.access opcode place))
  | closed {place rest : Bytes} {op : Opcode} :
    next place = .ok (op, rest) → MemoryOpcode.ofOpcode? op = none → op.nesting = .closes →
    depth = 0 → Stops depth place (afterClose rest)

/-- The walk passes these instructions, up to the place at which it stops. -/
structure Walked (depth : Int) (s : Bytes) (ops : List Opcode) (place : Bytes)
    (found : Option Finding) : Prop where
  run : Run s ops place
  plain : ∀ op ∈ ops, MemoryOpcode.ofOpcode? op = none
  stays : StaysOpen depth ops
  stops : Stops (depth + level ops) place found

/-- An instruction in front of a walk. -/
theorem Walked.cons {depth : Int} {s middle place : Bytes} {op : Opcode} {ops : List Opcode}
    {found : Option Finding} (read : next s = .ok (op, middle))
    (plain : MemoryOpcode.ofOpcode? op = none) (nonneg : 0 ≤ depth)
    (walked : Walked (depth + op.change) middle ops place found) :
    Walked depth s (op :: ops) place found where
  run := .cons read walked.run
  plain := List.forall_mem_cons.mpr ⟨plain, walked.plain⟩
  stays := staysOpen_cons_iff.mpr ⟨nonneg, walked.stays⟩
  stops := by
    rw [level_cons, ← Int.add_assoc]
    exact walked.stops

theorem Stops.walked {depth : Int} {s : Bytes} {found : Option Finding} (stops : Stops depth s found)
    (nonneg : 0 ≤ depth) : Walked depth s [] s found where
  run := .nil
  plain := fun _ member => nomatch member
  stays := staysOpen_nil_iff.mpr nonneg
  stops := by rwa [level_nil, Int.add_zero]

/-- Every walk stops somewhere. -/
theorem exists_walked (s : Bytes) {depth : Int} (nonneg : 0 ≤ depth) :
    ∃ ops place found, Walked depth s ops place found := by
  -- On the bytes that are left: an instruction takes at least one.
  induction length : s.length using Nat.strongRecOn generalizing s depth with
  | ind n ih =>
      cases s with
      | nil => exact ⟨_, _, _, Stops.missing.walked nonneg⟩
      | cons b s =>
          cases read : next (b :: s) with
          | error fault => exact ⟨_, _, _, (Stops.unreadable read).walked nonneg⟩
          | ok pair =>
              obtain ⟨op, rest⟩ := pair
              cases plain : MemoryOpcode.ofOpcode? op with
              | some opcode => exact ⟨_, _, _, (Stops.access read plain).walked nonneg⟩
              | none =>
                  have lowest := change_ge op
                  by_cases last : op.change = -1 ∧ depth = 0
                  · have closes := change_eq_neg_one_iff.mp last.1
                    exact ⟨_, _, _, (Stops.closed read plain closes last.2).walked nonneg⟩
                  · have shorter := next_shorter read
                    have stillOpen : 0 ≤ depth + op.change := by omega
                    obtain ⟨ops, place, found, walked⟩ :=
                      ih rest.length (by omega) rest stillOpen rfl
                    exact ⟨_, _, _, walked.cons read plain nonneg⟩

/-! ## The walk -/

theorem toNat_add_one (depth : UInt32) (small : depth.toNat + 1 < 2 ^ 32) :
    (depth + 1).toNat = depth.toNat + 1 := by
  rw [UInt32.toNat_add, UInt32.toNat_one]
  exact Nat.mod_eq_of_lt small

theorem toNat_sub_one (depth : UInt32) (positive : 0 < depth.toNat) :
    (depth - 1).toNat = depth.toNat - 1 := by
  have one : (1 : UInt32) ≤ depth := UInt32.le_iff_toNat_le.mpr positive
  rw [UInt32.toNat_sub_of_le _ _ one, UInt32.toNat_one]

/-- One instruction of the walk. What is left grows shorter by as much as the depth can grow. -/
theorem walk_next {depth : UInt32} {s rest : Bytes} {op : Opcode} (read : next s = .ok (op, rest))
    (plain : MemoryOpcode.ofOpcode? op = none) (stays : 0 ≤ depth.toNat + op.change)
    (short : depth.toNat + s.length < 2 ^ 32) :
    ∃ reached : UInt32, (reached.toNat : Int) = depth.toNat + op.change ∧
      reached.toNat + rest.length < 2 ^ 32 ∧ walk depth s = walk reached rest := by
  have shorter := next_shorter read
  cases s with
  | nil => cases shorter
  | cons b s =>
      rw [walk_cons, read]
      simp only [plain]
      cases kind : op.nesting with
      | opens =>
          have changed : op.change = 1 := by rw [change, kind]
          have above := toNat_add_one depth (by omega)
          exact ⟨depth + 1, by omega, by omega, rfl⟩
      | level =>
          have changed : op.change = 0 := by rw [change, kind]
          exact ⟨depth, by omega, by omega, rfl⟩
      | closes =>
          have changed : op.change = -1 := change_eq_neg_one_iff.mpr kind
          have below := toNat_sub_one depth (by omega)
          have inside : depth ≠ 0 := by
            intro none
            rw [none, UInt32.toNat_zero] at stays
            omega
          exact ⟨depth - 1, by omega, by omega, if_neg inside⟩

/-- The walk along a run that needs no memory and leaves the function open. -/
theorem walk_run {depth : UInt32} {s rest : Bytes} {ops : List Opcode} (run : Run s ops rest)
    (plain : ∀ op ∈ ops, MemoryOpcode.ofOpcode? op = none) (stays : StaysOpen depth.toNat ops)
    (short : depth.toNat + s.length < 2 ^ 32) :
    ∃ reached : UInt32, (reached.toNat : Int) = depth.toNat + level ops ∧
      walk depth s = walk reached rest := by
  induction run generalizing depth with
  | nil => exact ⟨depth, (Int.add_zero _).symm, rfl⟩
  | cons read run ih =>
      obtain ⟨here, later⟩ := List.forall_mem_cons.mp plain
      obtain ⟨_, further⟩ := staysOpen_cons_iff.mp stays
      obtain ⟨middle, counted, fits, same⟩ := walk_next read here further.start short
      rw [← counted] at further
      obtain ⟨reached, total, onward⟩ := ih later further fits
      refine ⟨reached, ?_, same.trans onward⟩
      rw [total, counted, level_cons, Int.add_assoc]

theorem Stops.walk_eq {depth : UInt32} {place : Bytes} {found : Option Finding}
    (stops : Stops depth.toNat place found) : walk depth place = found := by
  cases stops with
  | missing => rw [walk]
  | unreadable read => rw [walk_cons, read]
  | @access place rest op opcode read memory =>
      cases place with
      | nil => exact absurd (next_shorter read) (Nat.not_lt_zero _)
      | cons b s =>
          rw [walk_cons, read]
          simp only [memory]
  | @closed place rest op read plain closes outermost =>
      cases place with
      | nil => exact absurd (next_shorter read) (Nat.not_lt_zero _)
      | cons b s =>
          have zero : depth = 0 := UInt32.toNat_inj.mp (Int.ofNat_inj.mp outermost)
          rw [walk_cons, read]
          simp only [plain, closes, if_pos zero]

/-- What the walk finds, and where it stops. -/
theorem walk_eq_iff (depth : UInt32) {s : Bytes} {found : Option Finding}
    (short : depth.toNat + s.length < 2 ^ 32) :
    walk depth s = found ↔ ∃ ops place, Walked depth.toNat s ops place found := by
  have result : ∀ {ops place other}, Walked depth.toNat s ops place other → walk depth s = other := by
    intro ops place other walked
    obtain ⟨reached, total, same⟩ := walk_run walked.run walked.plain walked.stays short
    have stops := walked.stops
    rw [← total] at stops
    exact same.trans stops.walk_eq
  refine ⟨fun found => ?_, fun walked => ?_⟩
  · obtain ⟨ops, place, other, walked⟩ := exists_walked s (Int.natCast_nonneg depth.toNat)
    rw [← found, result walked]
    exact ⟨ops, place, walked⟩
  · rcases walked with ⟨ops, place, walked⟩
    exact result walked

end FunctionBody

end Memoryless
