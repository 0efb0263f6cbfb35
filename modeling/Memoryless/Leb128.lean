import Memoryless.Reader

/-!
# LEB128

Integers as groups of seven bits, the low group first, each byte but the last with its top bit set.
Reading drops the width by seven a byte and checks the last byte that the width allows, so padded
forms are read too; writing gives the shortest form. `unsigned_within` and `signed_within` say that
reading stays inside its input.
-/

namespace Memoryless.Leb128

/-! ## Reading -/

/-- An unsigned integer of at most `width` bits. -/
def unsignedBits (format : IntegerFormat) : Nat → Reader Nat
  | _, [] => .error ⟨.endOfInput, []⟩
  | width, b :: s =>
    if width < 7 then
      if b.toNat < 1 <<< width then .ok (b.toNat, s)
      else if b.toNat < 128 then .error ⟨.integerTooLarge format, b :: s⟩
      else .error ⟨.integerTooLong format, b :: s⟩
    else if b.toNat < 128 then .ok (b.toNat, s)
    else
      match unsignedBits format (width - 7) s with
      | .error fault => .error fault
      | .ok (high, rest) => .ok (b.toNat - 128 + 128 * high, rest)

/-- A signed integer of at most `width` bits, the sign included. -/
def signedBits (format : IntegerFormat) : Nat → Reader Int
  | _, [] => .error ⟨.endOfInput, []⟩
  | width, b :: s =>
    if width < 7 then
      if b.toNat < 1 <<< (width - 1) then .ok (b.toNat, s)
      else if b.toNat < 128 - (1 <<< (width - 1)) then
        -- The unused bits of the last byte have to repeat the sign.
        if format = .s33 then .error ⟨.integerTooLong format, b :: s⟩
        else .error ⟨.integerTooLarge format, b :: s⟩
      else if b.toNat < 128 then .ok ((b.toNat : Int) - 128, s)
      else .error ⟨.integerTooLong format, b :: s⟩
    else if b.toNat < 64 then .ok (b.toNat, s)
    else if b.toNat < 128 then .ok ((b.toNat : Int) - 128, s)
    else
      match signedBits format (width - 7) s with
      | .error fault => .error fault
      | .ok (high, rest) => .ok ((b.toNat : Int) - 128 + 128 * high, rest)

/-- An unsigned integer. -/
def unsigned (format : IntegerFormat) : Reader Nat :=
  unsignedBits format format.width

/-- A signed integer. -/
def signed (format : IntegerFormat) : Reader Int :=
  signedBits format format.width

/-- A count, length or index. -/
def u32 : Reader UInt32 := do
  let n ← unsigned .u32
  return n.toUInt32

/-! ## Writing -/

/-- The shortest form of an unsigned integer. -/
def ofNat (n : Nat) : Bytes :=
  if n < 128 then [n.toUInt8] else (n % 128 + 128).toUInt8 :: ofNat (n / 128)
termination_by n

/-- The shortest form of a signed integer. -/
def ofInt (z : Int) : Bytes :=
  if -64 ≤ z ∧ z < 64 then [(z % 128).toNat.toUInt8]
  else (z % 128 + 128).toNat.toUInt8 :: ofInt (z / 128)
termination_by z.natAbs
decreasing_by omega

/-! ## What is read -/

theorem unsignedBits_within (format : IntegerFormat) (width : Nat) :
    (unsignedBits format width).Within := by
  constructor
  · intro s n rest run
    fun_induction unsignedBits format width s generalizing n with
    | case1 => cases run
    | case2 => cases run; exact List.suffix_cons ..
    | case3 => cases run
    | case4 => cases run
    | case5 => cases run; exact List.suffix_cons ..
    | case6 => cases run
    | case7 width b s _ _ high left found ih =>
        cases run
        exact (ih found).trans (List.suffix_cons b s)
  · intro s fault run
    fun_induction unsignedBits format width s with
    | case1 => cases run; exact List.suffix_rfl
    | case2 => cases run
    | case3 => cases run; exact List.suffix_rfl
    | case4 => cases run; exact List.suffix_rfl
    | case5 => cases run
    | case6 width b s _ _ found run' ih =>
        cases run
        exact (ih run').trans (List.suffix_cons b s)
    | case7 => cases run

theorem signedBits_within (format : IntegerFormat) (width : Nat) :
    (signedBits format width).Within := by
  constructor
  · intro s n rest run
    fun_induction signedBits format width s generalizing n with
    | case10 width b s _ _ _ high left found ih =>
        cases run
        exact (ih found).trans (List.suffix_cons b s)
    | _ => cases run <;> exact List.suffix_cons ..
  · intro s fault run
    fun_induction signedBits format width s with
    | case9 width b s _ _ _ found run' ih =>
        cases run
        exact (ih run').trans (List.suffix_cons b s)
    | _ => cases run <;> exact List.suffix_rfl

theorem unsigned_within (format : IntegerFormat) : (unsigned format).Within :=
  unsignedBits_within format format.width

theorem signed_within (format : IntegerFormat) : (signed format).Within :=
  signedBits_within format format.width

theorem u32_within : u32.Within :=
  (unsigned_within .u32).bind fun _ => .pure _

theorem unsignedBits_advances (format : IntegerFormat) (width : Nat) :
    (unsignedBits format width).Advances := by
  intro s n rest run
  fun_induction unsignedBits format width s generalizing n with
  | case7 width b s _ _ high left found ih =>
      cases run
      exact Nat.lt_succ_of_lt (ih found)
  | _ => cases run <;> exact Nat.lt_succ_self _

theorem signedBits_advances (format : IntegerFormat) (width : Nat) :
    (signedBits format width).Advances := by
  intro s n rest run
  fun_induction signedBits format width s generalizing n with
  | case10 width b s _ _ _ high left found ih =>
      cases run
      exact Nat.lt_succ_of_lt (ih found)
  | _ => cases run <;> exact Nat.lt_succ_self _

theorem unsigned_advances (format : IntegerFormat) : (unsigned format).Advances :=
  unsignedBits_advances format format.width

theorem signed_advances (format : IntegerFormat) : (signed format).Advances :=
  signedBits_advances format format.width

theorem u32_advances : u32.Advances :=
  Reader.Advances.bind (unsigned_advances .u32) fun _ => .pure _

end Memoryless.Leb128
