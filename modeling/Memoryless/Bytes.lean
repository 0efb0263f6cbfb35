/-!
# Byte strings

Binary modules are lists of bytes. A place in a byte string is the suffix that starts there, so that
a reader needs no counter; its offset is a difference of two lengths and is taken only where a
message shows it.
-/

namespace Memoryless

/-- A byte string. -/
abbrev Bytes := List UInt8

namespace Bytes

variable {s rest : Bytes} {n : Nat}

/-- The offset in `whole` of the place where `rest` is left. -/
def offset (whole rest : Bytes) : Nat :=
  whole.length - rest.length

/-- What follows the first `n` bytes, if there are so many. -/
def from? (n : Nat) (s : Bytes) : Option Bytes :=
  if n ≤ s.length then some (s.drop n) else none

theorem offset_append (front rest : Bytes) : offset (front ++ rest) rest = front.length := by
  simp [offset]

/-- A place behind some bytes is not before their end. -/
theorem length_le_offset {front rest place : Bytes} (inside : place <:+ rest) :
    front.length ≤ offset (front ++ rest) place := by
  have shorter := inside.length_le
  rw [offset, List.length_append]
  omega

/-- A place inside a byte string is not past its end. -/
theorem offset_le (whole rest : Bytes) : offset whole rest ≤ whole.length :=
  Nat.sub_le _ _

/-! ## What follows an offset -/

theorem from?_offset (inside : rest <:+ s) : from? (offset s rest) s = some rest := by
  obtain ⟨front, rfl⟩ := inside
  rw [offset_append, from?, if_pos (by rw [List.length_append]; omega), List.drop_left]

theorem from?_length (front rest : Bytes) : from? front.length (front ++ rest) = some rest := by
  rw [← offset_append front rest]
  exact from?_offset ⟨front, rfl⟩

theorem from?_eq_none (short : s.length < n) : from? n s = none :=
  if_neg (Nat.not_le_of_lt short)

end Bytes

end Memoryless
