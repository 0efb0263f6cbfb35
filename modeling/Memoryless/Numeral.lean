/-!
# Numerals in messages

Offsets are written in hexadecimal with as few digits as possible, opcode and id bytes with two
hexadecimal digits, and bit fields of a byte with eight binary digits.
-/

namespace Memoryless.Numeral

/-- The digits of `n` in the given base, filled up with zeros on the left to `width` digits. -/
def digits (base width n : Nat) : String :=
  let shortest := Nat.toDigits base n
  String.ofList (List.replicate (width - shortest.length) '0' ++ shortest)

/-- Hexadecimal, without padding: `0x1f`. -/
def hex (n : Nat) : String :=
  "0x" ++ digits 16 1 n

/-- The two hexadecimal digits of a byte: `0x0b`. -/
def hexByte (b : UInt8) : String :=
  "0x" ++ digits 16 2 b.toNat

/-- The eight binary digits of a byte: `00000100`. -/
def bits (b : UInt8) : String :=
  digits 2 8 b.toNat

end Memoryless.Numeral
