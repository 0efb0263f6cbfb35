import Memoryless.Draft.Instruction
import Memoryless.Instruction.Immediate
import Memoryless.Proofs.Forms

/-!
# Written numbers and types

A number is read as what was written, whatever follows it, if it fits the width; and a type is passed over to
its end. The one exception is a reference to a type of the module whose index is too large to be read
(`HeapType.overLimit`): the index is refused then, and the place to blame is behind it.

The index of a type is written as a signed integer that is not negative, so its first byte is none of those
that stand for a type themselves (`Leb128.ofInt_of_nonneg`).
-/

namespace Memoryless

/-! ## Readers -/

namespace Reader

variable {α β : Type} {r : Reader α} {s middle rest : Bytes} {a : α} {fault : Fault}

theorem bind_of_ok {f : α → Reader β} (run : r s = .ok (a, middle)) : (r >>= f) s = f a middle := by
  simp only [Bind.bind, StateT.bind, Except.bind, run]

theorem bind_of_error {f : α → Reader β} (run : r s = .error fault) : (r >>= f) s = .error fault := by
  simp only [Bind.bind, StateT.bind, Except.bind, run]

theorem pass_of_ok (run : r s = .ok (a, rest)) : r.pass s = .ok ((), rest) :=
  @bind_of_ok α Unit r s rest a (fun _ => Pure.pure ()) run

theorem pass_of_error (run : r s = .error fault) : r.pass s = .error fault :=
  @bind_of_error α Unit r s fault (fun _ => Pure.pure ()) run

theorem require_of_ok {blame : Blame} {reason : Reason} {test : α → Bool} (run : r s = .ok (a, rest))
    (passed : test a = true) : r.require blame reason test s = .ok (a, rest) := by
  simp only [require, refine, run, if_pos passed]

theorem require_of_refused {blame : Blame} {reason : Reason} {test : α → Bool}
    (run : r s = .ok (a, rest)) (refused : test a ≠ true) :
    r.require blame reason test s = .error ⟨reason, blame.place s rest⟩ := by
  simp only [require, refine, run, if_neg refused]

end Reader

/-! ## Numbers -/

namespace Leb128

theorem u32_ofNat (n : UInt32) (rest : Bytes) : u32 (ofNat n.toNat ++ rest) = .ok (n, rest) :=
  u32_reads.accepted (.ofNat (by decide) n.toNat_lt) rest

theorem unsigned_ofNat (n : UInt64) (rest : Bytes) :
    unsigned .u64 (ofNat n.toNat ++ rest) = .ok (n.toNat, rest) :=
  unsignedBits_accepted (by decide) (.ofNat (by decide) n.toNat_lt) rest

/-- The last byte of a signed integer, which holds it if six bits do. -/
theorem signedBits_last (format : IntegerFormat) {width : Nat} {z : Int} (small : -64 ≤ z ∧ z < 64)
    (low : -(2 ^ (width - 1) : Nat) ≤ z) (high : z < (2 ^ (width - 1) : Nat)) (rest : Bytes) :
    signedBits format width ((z % 128).toNat.toUInt8 :: rest) = .ok (z, rest) := by
  have byte : (z % 128).toNat.toUInt8.toNat = (z % 128).toNat := toNat_toUInt8 (by omega)
  rw [signedBits, byte, Nat.one_shiftLeft]
  by_cases negative : z < 0
  · have value : ((z % 128).toNat : Int) - 128 = z := by omega
    by_cases narrow : width < 7
    · have power : 2 ^ (width - 1) ≤ 2 ^ 5 := Nat.pow_le_pow_right (by decide) (by omega)
      rw [if_pos narrow, if_neg (by omega), if_neg (by omega), if_pos (by omega), value]
    · rw [if_neg narrow, if_neg (by omega), if_pos (by omega), value]
  · have value : ((z % 128).toNat : Int) = z := by omega
    by_cases narrow : width < 7
    · rw [if_pos narrow, if_pos (by omega), value]
    · rw [if_neg narrow, if_pos (by omega), value]

/-- What is written of a signed integer is read as it, if it fits the width. -/
theorem signedBits_ofInt (format : IntegerFormat) {width : Nat} (positive : 0 < width) {z : Int}
    (low : -2 ^ (width - 1) ≤ z) (high : z < 2 ^ (width - 1)) (rest : Bytes) :
    signedBits format width (ofInt z ++ rest) = .ok (z, rest) := by
  have cast : ∀ n : Nat, (2 : Int) ^ n = (2 ^ n : Nat) := fun n => (Int.natCast_pow 2 n).symm
  fun_induction ofInt z generalizing width with
  | case1 z small =>
      rw [cast] at low high
      exact signedBits_last format small low high rest
  | case2 z large ih =>
      have byte : (z % 128 + 128).toNat.toUInt8.toNat = (z % 128 + 128).toNat :=
        toNat_toUInt8 (by omega)
      -- One byte holds whatever fits a width of seven.
      have wide : 7 < width := by
        refine Nat.lt_of_not_le fun narrow => large ?_
        have power : 2 ^ (width - 1) ≤ 2 ^ 6 := Nat.pow_le_pow_right (by decide) (by omega)
        rw [cast] at low high
        omega
      have power := two_pow_of_seven_le (show 7 ≤ width - 1 by omega)
      have further : width - 1 - 7 = width - 7 - 1 := by omega
      rw [cast, power, further] at low high
      have later := @ih (width - 7) (by omega) (by rw [cast]; omega) (by rw [cast]; omega)
      have value : ((z % 128 + 128).toNat : Int) - 128 + 128 * (z / 128) = z := by omega
      rw [List.cons_append, signedBits, byte, if_neg (by omega), if_neg (by omega), if_neg (by omega),
        later]
      dsimp only
      rw [value]

/-- An index is not written as one of the bytes that stand for a type. -/
theorem ofInt_of_nonneg {z : Int} (nonneg : 0 ≤ z) :
    ∃ b more, ofInt z = b :: more ∧ (b.toNat < 0x40 ∨ 0x80 ≤ b.toNat) := by
  rw [ofInt]
  split
  · have byte : (z % 128).toNat.toUInt8.toNat = (z % 128).toNat := toNat_toUInt8 (by omega)
    exact ⟨_, [], rfl, by omega⟩
  · have byte : (z % 128 + 128).toNat.toUInt8.toNat = (z % 128 + 128).toNat := toNat_toUInt8 (by omega)
    exact ⟨_, _, rfl, by omega⟩

theorem signed_ofIndex (index : UInt32) (rest : Bytes) :
    signed .s33 (ofInt index.toNat ++ rest) = .ok ((index.toNat : Int), rest) := by
  have small := index.toNat_lt
  have low : -2 ^ (33 - 1) ≤ (index.toNat : Int) := by omega
  have high : (index.toNat : Int) < 2 ^ (33 - 1) := by omega
  exact signedBits_ofInt .s33 (by decide) low high rest

end Leb128

/-! ## Types -/

/-- Does the type name a type of the module behind the last that may be read? -/
def HeapType.overLimit : HeapType → Bool
  | concrete index => 0x100000 ≤ index.toNat
  | abstract .. => false

/-- Does the type name a type of the module behind the last that may be read? -/
def ValueType.overLimit : ValueType → Bool
  | reference _ heap => heap.overLimit
  | _ => false

/-- Does the result name a type of the module behind the last that may be read? There is no such limit for
a function type. -/
def BlockType.overLimit : BlockType → Bool
  | result type => type.overLimit
  | _ => false

namespace WasmType

open Reader

/-- What comes of passing over a type. -/
def passed (overLimit : Bool) (rest : Bytes) : Except Fault (Unit × Bytes) :=
  if overLimit then .error ⟨.typeIndexLimit, rest⟩ else .ok ((), rest)

theorem require_nonneg (reason : Reason) (index : UInt32) (rest : Bytes) :
    ((Leb128.signed .s33).require .after reason fun z => 0 ≤ z) (Leb128.ofInt index.toNat ++ rest) =
      .ok ((index.toNat : Int), rest) :=
  require_of_ok (Leb128.signed_ofIndex index rest) (decide_eq_true (Int.natCast_nonneg index.toNat))

theorem skipHeapIndex_write (index : UInt32) (rest : Bytes) :
    skipHeapIndex (Leb128.ofInt index.toNat ++ rest) = passed (0x100000 ≤ index.toNat) rest := by
  have nonneg := require_nonneg .indexedHeapType index rest
  by_cases beyond : 0x100000 ≤ index.toNat
  · have refused : decide ((index.toNat : Int) < indexLimit) ≠ true := by
      rw [Ne, decide_eq_true_iff, indexLimit]
      omega
    rw [passed, decide_eq_true beyond, if_pos rfl]
    exact pass_of_error (require_of_refused nonneg refused)
  · have below : decide ((index.toNat : Int) < indexLimit) = true := by
      rw [decide_eq_true_iff, indexLimit]
      omega
    rw [passed, decide_eq_false beyond, if_neg Bool.false_ne_true]
    exact pass_of_ok (require_of_ok nonneg below)

/-- What begins like an index is not taken for anything else. -/
theorem skipHeap_index (index : UInt32) (rest : Bytes) :
    skipHeap (Leb128.ofInt index.toNat ++ rest) = skipHeapIndex (Leb128.ofInt index.toNat ++ rest) := by
  obtain ⟨b, more, written, other⟩ := Leb128.ofInt_of_nonneg (Int.natCast_nonneg index.toNat)
  have notAbstract : isAbstractHeap b.toNat = false := by
    simp only [isAbstractHeap, Bool.and_eq_false_iff, decide_eq_false_iff_not]
    omega
  have notShared : b ≠ 0x65 := by
    rintro rfl
    revert other
    decide
  rw [written, List.cons_append, skipHeap, peek, notAbstract, if_neg Bool.false_ne_true, if_neg notShared]

theorem skipHeap_write (heap : HeapType) (rest : Bytes) :
    skipHeap (heap.write ++ rest) = passed heap.overLimit rest := by
  cases heap with
  | abstract shared kind => cases shared <;> cases kind <;> rfl
  | concrete index => exact (skipHeap_index index rest).trans (skipHeapIndex_write index rest)

theorem skipValue_write (type : ValueType) (rest : Bytes) :
    skipValue (type.write ++ rest) = passed type.overLimit rest := by
  fun_cases ValueType.write type with
  | case8 heap => exact skipHeap_write heap rest
  | case9 heap => exact skipHeap_write heap rest
  | _ => rfl

/-- A value type begins with a byte that is none of an index, and not that of a block without result. -/
theorem cons_of_write (type : ValueType) :
    ∃ b more, type.write = b :: more ∧ 0x40 < b ∧ b < 0x80 := by
  fun_cases ValueType.write type <;> exact ⟨_, _, rfl, by decide, by decide⟩

theorem skipBlock_value (type : ValueType) (rest : Bytes) :
    skipBlock (type.write ++ rest) = skipValue (type.write ++ rest) := by
  obtain ⟨b, more, written, low, high⟩ := cons_of_write type
  have notEmpty : b ≠ 0x40 := by
    rintro rfl
    revert low
    decide
  have isValue : (decide (0x40 < b) && decide (b < 0x80)) = true := by
    rw [decide_eq_true low, decide_eq_true high, Bool.and_self]
  rw [written, List.cons_append, skipBlock, peek, if_neg notEmpty, if_pos isValue]

theorem skipBlock_index (index : UInt32) (rest : Bytes) :
    skipBlock (Leb128.ofInt index.toNat ++ rest) = .ok ((), rest) := by
  obtain ⟨b, more, written, other⟩ := Leb128.ofInt_of_nonneg (Int.natCast_nonneg index.toNat)
  have notEmpty : b ≠ 0x40 := by
    rintro rfl
    revert other
    decide
  have notValue : ¬(decide (0x40 < b) && decide (b < 0x80)) = true := by
    simp only [Bool.and_eq_true, decide_eq_true_iff, UInt8.lt_iff_toNat_lt, UInt8.reduceToNat]
    omega
  have nonneg := require_nonneg .functionType index rest
  rw [written, List.cons_append] at nonneg
  rw [written, List.cons_append, skipBlock, peek, if_neg notEmpty, if_neg notValue]
  exact pass_of_ok nonneg

theorem skipBlock_write (type : BlockType) (rest : Bytes) :
    skipBlock (type.write ++ rest) = passed type.overLimit rest := by
  cases type with
  | empty => rfl
  | result type => exact (skipBlock_value type rest).trans (skipValue_write type rest)
  | functionType index => exact skipBlock_index index rest

end WasmType

end Memoryless
